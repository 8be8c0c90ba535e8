import Keyboards.Proofs.Session.Replacement

/-! Problems that commands meet, and the user's notice of them: one for each identifier. -/

namespace Keyboards

/-- Whether a keyboard was to be activated and was not. -/
def Reply.isFailure : Reply → Bool
  | .activation .failed | .activationFor (.ok .failed) _ => true
  | _ => false

/-- Commands that set out to activate a keyboard. -/
def Command.activates : Command → Bool
  | .activate _ | .activateId _ | .activateKey .. | .activateLanguage _ | .activateDefault
  | .activateDescribed .. | .activateFor _ => true
  | _ => false

/-- Why a keyboard did not get into use. -/
inductive Failure where
  /-- The catalog has no such keyboard that can be used. -/
  | notInstalled (asked : Keyboard)
  /-- No adaptor serves the category of the catalog's entry. -/
  | noSystem (entry : Keyboard)
  /-- The adaptor would not activate the catalog's entry. -/
  | refused (entry : Keyboard) (error : AdaptorError)

def Failure.message : Failure → String
  | notInstalled k => "The keyboard '" ++ k.name ++ "' is not installed on this computer."
  | noSystem r => "No keyboard system is available to activate '" ++ r.name ++ "'."
  | refused r e => "The keyboard '" ++ r.name ++ "' could not be activated: " ++ e.message

/-- Something that the user is to hear of once. -/
structure Problem where
  /-- Problems with one identifier count as one. -/
  id : String
  /-- The key of the keyboard that failed. An identifier that names nothing has none. -/
  key : Option (String × String)
  message : String

namespace Problem

variable {p : Problem} {ps : List Problem}

/-- A keyboard failed. -/
def ofFailure (k : Keyboard) (f : Failure) : Problem := ⟨k.legacyId, some k.key, f.message⟩

/-- An identifier named nothing. -/
def unresolved (id : String) : Problem :=
  ⟨id, none, "Could not find a keyboard ime that had a keyboard named '" ++ id ++ "'"⟩

/-- Of each identifier the first problem, in order. -/
def firsts : List Problem → List Problem
  | [] => []
  | p :: ps => p :: (firsts ps).filter (·.id ≠ p.id)

/-- Every identifier has a first problem. -/
theorem map_id_firsts (ps : List Problem) (id : String) :
    id ∈ (firsts ps).map (·.id) ↔ id ∈ ps.map (·.id) := by
  induction ps with
  | nil => rfl
  | cons p ps ih =>
    by_cases hp : id = p.id
    · simp [firsts, hp]
    · rw [List.map_cons, List.mem_cons, ← ih]
      simp only [firsts, List.map_cons, List.mem_cons, hp, false_or, List.mem_map,
        List.mem_filter, decide_eq_true_eq]
      constructor
      · rintro ⟨q, hq, rfl⟩
        exact ⟨q, hq.1, rfl⟩
      · rintro ⟨q, hq, rfl⟩
        exact ⟨q, ⟨hq, hp⟩, rfl⟩

/-- Of problems that come later only those of other identifiers are the first ones. -/
theorem firsts_append (ps qs : List Problem) :
    firsts (ps ++ qs) = firsts ps ++ (firsts qs).filter (·.id ∉ ps.map (·.id)) := by
  induction ps with
  | nil => simp [firsts]
  | cons p ps ih =>
    rw [List.cons_append, firsts, firsts, ih, List.filter_append, List.filter_filter,
      List.cons_append]
    simp [not_or]

end Problem

namespace History

variable {a b : Adaptor} {g h : History} {k : Keyboard}

/-- The problems that the user was told of. -/
def problems (h : History) : List String := h.journal.problems

/-- The error with which an adaptor refused to activate a keyboard. -/
def refusal? (a : Adaptor) (k : Keyboard) (h : History) : Option AdaptorError :=
  h.findSome? fun
    | .asked b (.activate l) (.error e) => if b = a ∧ l = k then some e else none
    | _ => none

@[simp] theorem problems_append : problems (g ++ h) = problems g ++ problems h := by
  simp [problems, Journal.problems]

@[simp] theorem problems_nil : problems [] = [] := rfl

@[simp] theorem problems_asked (r : Request) (answer : r.Answer) :
    problems (.asked a r answer :: h) = problems h := rfl

@[simp] theorem problems_told (l : Listener) (e : FocusEvent) :
    problems (.told l e :: h) = problems h := rfl

theorem problems_of_journal (hg : journal g = []) : problems g = [] := by
  rw [problems, hg]
  rfl

@[simp] theorem problems_letting (x : Option Adaptor) : problems (letting x k) = [] := by
  cases x <;> rfl

@[simp] theorem problems_restoring (x : Option Adaptor) (answer : Except AdaptorError Unit) :
    problems (restoring x k answer) = [] := by
  cases x <;> rfl

theorem refusal?_append : refusal? a k (g ++ h) = (refusal? a k g).or (refusal? a k h) :=
  List.findSome?_append

theorem refusal?_letting (x : Option Adaptor) (l : Keyboard) :
    refusal? a k (letting x l) = none := by
  cases x <;> rfl

end History

namespace Session

open History

variable {o : Oracle} {s t : Session} {i : Installed} {k : Keyboard} {g h new : History}
  {c : Command} {ps qs : List Problem} {failed : Bool}

/-- The keyboard that a command sets out to activate, by the lookup that it makes at that moment. -/
def target? (s : Session) (o : Oracle) (h : History) : Command → Option Keyboard
  | .activate k => some k
  | .activateId id => (s.resolve id).toOption
  | .activateKey layout locale => (s.lookup layout locale).toOption
  | .activateLanguage language => (s.ofLanguage language).toOption
  | .activateDefault => ((s.defaultKeyboard o.environment).run h).1.toOption
  | .activateDescribed layout locale =>
    ((s.describe o.environment layout locale).run h).1.toOption
  | .activateFor ws => (s.adopt ws).toOption.map (·.chosen)
  | _ => none

/-- Why a keyboard could not be activated, given what happened on the way. -/
def failure? (i : Installed) (k : Keyboard) (new : History) : Option Failure :=
  match usable? i k with
  | none => some (.notInstalled k)
  | some (r, c) =>
    match i.serving c with
    | none => some (.noSystem r)
    | some a => (refusal? a r new).map (.refused r)

/-- Of problems that come one after the other, those that the user is to hear of: the first one of
each identifier that is not known yet. -/
def untold (s : Session) (ps : List Problem) : List Problem :=
  (Problem.firsts ps).filter fun p => s.settings.notifyUnresolved && !s.warned.contains p.id

/-- The user hears of the problems that are still to be told, and of nothing else. -/
structure Noted (s : Session) (ps : List Problem) (new : History) (t : Session) : Prop where
  settings : t.settings = s.settings
  warned : t.warned = s.warned ++ (s.untold ps).map (·.id)
  told : problems new = (s.untold ps).map (·.message)

theorem Noted.nil (settings : t.settings = s.settings) (warned : t.warned = s.warned)
    (quiet : problems new = []) : Noted s [] new t :=
  ⟨settings, by simp [warned, untold, Problem.firsts], by simp [quiet, untold, Problem.firsts]⟩

/-- Events of which the user hears nothing may come before. -/
theorem Noted.after (quiet : problems g = []) (h : Noted s ps new t) : Noted s ps (g ++ new) t :=
  ⟨h.settings, h.warned, by rw [problems_append, quiet, List.nil_append, h.told]⟩

/-- What the user heard of before is not told again. -/
theorem untold_append (settings : t.settings = s.settings)
    (warned : t.warned = s.warned ++ (s.untold ps).map (·.id)) :
    s.untold (ps ++ qs) = s.untold ps ++ t.untold qs := by
  rw [untold, Problem.firsts_append, List.filter_append, List.filter_filter]
  refine congrArg (s.untold ps ++ ·) (List.filter_congr fun q _ => ?_)
  have hfirst := Problem.map_id_firsts ps q.id
  rw [settings, warned, Bool.eq_iff_iff]
  simp only [Bool.and_eq_true, decide_eq_true_eq, Bool.not_eq_true', List.contains_eq_mem,
    decide_eq_false_iff_not, List.mem_append, not_or, ← hfirst, untold, List.mem_map,
    List.mem_filter]
  constructor
  · rintro ⟨⟨hn, hw⟩, hps⟩
    exact ⟨hn, hw, fun ⟨p, hp, he⟩ => hps ⟨p, hp.1, he⟩⟩
  · rintro ⟨hn, hw, hps⟩
    exact ⟨⟨hn, hw⟩, fun ⟨p, hp, he⟩ => hps ⟨p, ⟨hp, hn, he ▸ hw⟩, he⟩⟩

theorem Noted.append {u : Session} (before : Noted s ps g t) (after : Noted t qs h u) :
    Noted s (ps ++ qs) (g ++ h) u := by
  have huntold : s.untold (ps ++ qs) = s.untold ps ++ t.untold qs :=
    untold_append before.settings before.warned
  refine ⟨after.settings.trans before.settings, ?_, ?_⟩
  · rw [after.warned, before.warned, huntold, List.map_append, List.append_assoc]
  · rw [problems_append, before.told, after.told, huntold, List.map_append]

theorem untold_singleton (s : Session) (p : Problem) : s.untold [p] =
    if s.settings.notifyUnresolved = true ∧ p.id ∉ s.warned then [p] else [] := by
  by_cases hn : s.settings.notifyUnresolved = true <;> by_cases hw : p.id ∈ s.warned <;>
    simp [untold, Problem.firsts, hn, hw]

theorem Warned.noted {p : Problem} (h : Warned s p.id p.message new t) :
    Noted s [p] new t := by
  have huntold := untold_singleton s p
  cases h with
  | silent known =>
    rw [if_neg fun h => h.2 (known h.1)] at huntold
    exact ⟨rfl, by simp [huntold], by rw [huntold]; rfl⟩
  | told notify fresh =>
    rw [if_pos ⟨notify, fresh⟩] at huntold
    exact ⟨rfl, by rw [huntold]; rfl, by rw [huntold]; rfl⟩

/-- What an activation comes to for a keyboard that was found, if one was: the user hears of it if
it failed, and then there is a reason. -/
structure Accounted (s : Session) (i : Installed) (target : Option Keyboard) (failed : Bool)
    (new : History) (t : Session) : Prop where
  noted : Noted s (if failed then (target.bind fun k =>
    (failure? i k new).map (.ofFailure k)).toList else []) new t
  reason : failed = true → ∃ k f, target = some k ∧ failure? i k new = some f

theorem Accounted.of_success {target : Option Keyboard} (quiet : Noted s [] new t) :
    Accounted s i target false new t := ⟨quiet, nofun⟩

theorem Accounted.of_failure {f : Failure} (hf : failure? i k new = some f)
    (noted : Noted s [.ofFailure k f] new t) : Accounted s i (some k) true new t := by
  refine ⟨?_, fun _ => ⟨k, f, rfl, hf⟩⟩
  simpa [hf] using noted

theorem leads_activate_accounted (live : s.installed = some i) (k : Keyboard) :
    Leads (s.activate o.environment k) fun r new =>
      Accounted s i (some k) (Reply.of .activation r.1).isFailure new r.2 := by
  intro h
  obtain ⟨⟨_, t⟩, new, run, x, rfl, hx⟩ := activates (o := o) live k h
  refine ⟨_, new, run, ?_⟩
  cases hx with
  | zero => exact .of_success (.nil rfl rfl rfl)
  | absent nonzero unusable warned =>
    refine .of_failure (f := .notInstalled k) ?_ (Warned.noted (p := .ofFailure k _) warned)
    simp only [failure?, unusable]
  | unserved nonzero usable unserved warned =>
    rename_i r c
    refine .of_failure (f := .noSystem r) ?_ (Warned.noted (p := .ofFailure k _) warned)
    simp only [failure?, usable, unserved]
  | activated => exact .of_success (.nil rfl rfl (by simp))
  | refused nonzero usable serves refuses warned =>
    rename_i r c a e back reports
    refine .of_failure (f := .refused r e) ?_ ?_
    · simp only [failure?, usable, serves, refusal?_append, refusal?_letting]
      simp [refusal?]
    · have hquiet : problems (letting (leaving? i c) i.active ++
          ([.asked a (.activate r) (.error e)] ++
            restoring (leaving? i c) i.active back)) = [] := by
        simp
      simpa using (Warned.noted (p := .ofFailure k (.refused r e)) warned).after hquiet

/-- Questions in front do not count. -/
theorem Asking.quiet (asking : Asking i g) : problems g = [] := by
  rcases asking with rfl | ⟨a, r, answer, -, -, rfl⟩ <;> rfl

theorem Asking.failure? (asking : Asking i g) (j : Installed) (k : Keyboard) (new : History) :
    failure? j k (g ++ new) = Session.failure? j k new := by
  have hquiet : ∀ a r, refusal? a r g = none := by
    intro a r
    rcases asking with rfl | ⟨b, q, answer, -, asks, rfl⟩
    · rfl
    · cases q <;> first | rfl | cases asks
  simp only [Session.failure?, refusal?_append, hquiet, Option.none_or]

theorem Asking.accounted {target : Option Keyboard} (asking : Asking i g)
    (h : Accounted s i target failed new t) : Accounted s i target failed (g ++ new) t := by
  obtain ⟨noted, reason⟩ := h
  refine ⟨?_, ?_⟩
  · simpa only [asking.failure?] using noted.after asking.quiet
  · simpa only [asking.failure?] using reason

theorem leads_activateFound_accounted (live : s.installed = some i)
    (found : Except SessionError Keyboard) :
    Leads (s.activateFound o.environment found) fun r new =>
      Accounted s i found.toOption (Reply.of .activation r.1).isFailure new r.2 := by
  cases found with
  | error e => exact .pure (.of_success (.nil rfl rfl rfl))
  | ok k => exact leads_activate_accounted live k

end Session

/-- A command that was carried out, with all that went with it. -/
structure Turn where
  /-- The session as it was before. -/
  session : Session
  command : Command
  /-- The keyboard that the command set out to activate. -/
  target? : Option Keyboard
  reply : Reply
  /-- What happened meanwhile. -/
  events : History

namespace Turn

variable (u : Turn)

/-- The identifier that the command gave, if it named nothing. -/
def nameless? : Option String :=
  match u.command with
  | .activateId id => if u.target?.any (·.isZero) then some id else none
  | _ => none

/-- The problem that the command met, if it met one. -/
def problem? : Option Problem :=
  if u.reply.isFailure then
    u.session.installed.bind fun i => u.target?.bind fun k =>
      (Session.failure? i k u.events).map (.ofFailure k)
  else u.nameless?.map .unresolved

/-- The user hears of the problem as it should be, and no failure goes without a reason. -/
structure Sound (t : Session) : Prop where
  noted : u.session.Noted u.problem?.toList u.events t
  reason : u.reply.isFailure = true →
    ∃ k f, u.target? = some k ∧ u.problem? = some (.ofFailure k f)

end Turn

namespace Session

open History

variable {o : Oracle} {s t : Session} {i : Installed} {k : Keyboard} {g h new : History}
  {c : Command} {reply : Reply}

theorem Accounted.sound {target : Option Keyboard} (live : s.installed = some i)
    (named : Turn.nameless? ⟨s, c, target, reply, new⟩ = none)
    (h : Accounted s i target reply.isFailure new t) :
    Turn.Sound ⟨s, c, target, reply, new⟩ t := by
  obtain ⟨noted, reason⟩ := h
  refine ⟨?_, fun hf => ?_⟩
  · rw [Turn.problem?, apply_ite Option.toList, named]
    simpa only [live, Option.bind_some, Option.map_none, Option.toList_none] using noted
  · obtain ⟨k, f, rfl, he⟩ := reason hf
    refine ⟨k, f, rfl, ?_⟩
    simp only at hf
    simp [Turn.problem?, hf, live, he]

end Session

end Keyboards
