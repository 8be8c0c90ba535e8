import Keyboards.Proofs.Session.Following

/-! What each command to an open session delivers of focus events, to whom and in which order. -/

namespace Keyboards

/-- Someone who hears of focus targets. -/
inductive Hearer where
  | adaptor (a : Adaptor)
  | listener (l : Listener)
deriving DecidableEq, Repr

/-- Commands about targets and about who hears of them. -/
def Command.isAboutFocus : Command → Bool
  | .register .. | .unregister _ | .listen _ | .replaceAdaptors _ => true
  | _ => false

namespace History

variable {g h : History}

/-- Who heard what of focus targets, in order. -/
def deliveries (h : History) : List (Hearer × FocusEvent) :=
  h.filterMap fun
    | .asked a (.focus e) _ => some (.adaptor a, e)
    | .told l e => some (.listener l, e)
    | _ => none

/-- What the listeners were told, in order. -/
def told (h : History) : List (Listener × FocusEvent) :=
  (deliveries h).filterMap fun
    | (.listener l, e) => some (l, e)
    | (.adaptor _, _) => none

@[simp] theorem deliveries_nil : deliveries [] = [] := rfl

@[simp] theorem deliveries_append : deliveries (g ++ h) = deliveries g ++ deliveries h :=
  List.filterMap_append

theorem deliveries_question {a : Adaptor} {r : Request} (asks : r.isQuestion = true)
    (answer : r.Answer) : deliveries [.asked a r answer] = [] := by
  cases r <;> first | rfl | cases asks

@[simp] theorem deliveries_letting (x : Option Adaptor) (k : Keyboard) :
    deliveries (letting x k) = [] := by
  cases x <;> rfl

@[simp] theorem deliveries_restoring (x : Option Adaptor) (k : Keyboard)
    (answer : Except AdaptorError Unit) : deliveries (restoring x k answer) = [] := by
  cases x <;> rfl

@[simp] theorem deliveries_questions (vs : List Verdict) : deliveries (questions vs) = [] := by
  simp [deliveries, questions]

@[simp] theorem deliveries_closings (as : List Adaptor) : deliveries (closings as) = [] := by
  simp [deliveries, closings]

@[simp] theorem deliveries_enumerations (xs : List Offer) :
    deliveries (enumerations xs) = [] := by
  simp [deliveries, enumerations]

@[simp] theorem deliveries_introduction (i : Installed) : deliveries (introduction i) = [] := rfl

/-- Everyone hears of an event once: the adaptors in their order, then the listeners in theirs. -/
theorem deliveries_news (as : List Adaptor) (ls : List Listener) (e : FocusEvent) :
    deliveries (news as ls e) = as.map (fun a => (.adaptor a, e)) ++
      ls.map fun l => (.listener l, e) := by
  simp [deliveries, news]

/-- Adaptors hear of targets that are there already, target by target. -/
theorem deliveries_announcements (targets : FocusTargets) (as : List Adaptor) :
    deliveries (announcements targets as) =
      targets.flatMap fun p => as.map fun a => (.adaptor a, .added p.1 p.2) := by
  simp [deliveries, announcements, List.filterMap_flatMap]

@[simp] theorem told_nil : told [] = [] := rfl

@[simp] theorem told_append : told (g ++ h) = told g ++ told h := by
  simp [told]

theorem told_of_deliveries_eq_nil (hd : deliveries h = []) : told h = [] := by
  rw [told, hd, List.filterMap_nil]

theorem told_news (as : List Adaptor) (ls : List Listener) (e : FocusEvent) :
    told (news as ls e) = ls.map fun l => (l, e) := by
  simp [told, deliveries_news, List.filterMap_append]

@[simp] theorem told_announcements (targets : FocusTargets) (as : List Adaptor) :
    told (announcements targets as) = [] := by
  simp [told, deliveries_announcements, List.filterMap_flatMap]

end History

namespace Session

open History

variable {α β : Type} {o : Oracle} {s t : Session} {i j : Installed} {g h new : History}
  {offered : List Adaptor} {result : Except SessionError Installed}

theorem Starting.deliveries {x y : Option Adaptor} (hs : Starting x y new) :
    deliveries new = [] := by
  cases hs <;> rfl

theorem Installing.deliveries (hi : Installing offered result new) : deliveries new = [] := by
  cases hi with
  | refused judged one two => simp [one.deliveries, two.deliveries]
  | installed judged one two listed => simp [one.deliveries, two.deliveries]

/-- Nobody hears of a target, and those registered and the listeners stay as they are. -/
structure Aside (s : Session) (new : History) (t : Session) : Prop where
  silent : deliveries new = []
  targets : t.targets = s.targets
  listeners : t.listeners = s.listeners

theorem Aside.of_silent (silent : deliveries new = []) : Aside s new s := ⟨silent, rfl, rfl⟩

theorem Aside.trans {u : Session} (first : Aside s g t) (second : Aside t h u) :
    Aside s (g ++ h) u := by
  refine ⟨?_, second.targets.trans first.targets, second.listeners.trans first.listeners⟩
  rw [deliveries_append, first.silent, second.silent]
  rfl

theorem Asking.aside (asking : Asking i new) : Aside s new s := by
  rcases asking with rfl | ⟨a, r, answer, -, asks, rfl⟩
  · exact .of_silent rfl
  · exact .of_silent (deliveries_question asks answer)

/-- What stands aside from targets part by part stands aside as a whole. -/
theorem leads_aside_bind {x : StateM History α} {f : α → StateM History β} {π : β → Session}
    (hx : Leads x fun _ new => Aside s new s)
    (hf : ∀ a, Leads (f a) fun b new => Aside s new (π b)) :
    Leads (x >>= f) fun b new => Aside s new (π b) :=
  hx.bind fun a _ first => (hf a).mono fun _ _ second => first.trans second

theorem leads_aside_pure {a : α} {π : α → Session} (ht : (π a).targets = s.targets)
    (hl : (π a).listeners = s.listeners) :
    Leads (pure a : StateM History α) fun b new => Aside s new (π b) :=
  .pure ⟨rfl, ht, hl⟩

theorem leads_aside_question {a : Adaptor} {r : Request} (asks : r.isQuestion = true) :
    Leads (o.environment.ask a r) fun _ new => Aside s new s :=
  .ask fun answer => .of_silent (deliveries_question asks answer)

theorem Warned.aside {id message : String} (h : Warned s id message new t) : Aside s new t := by
  cases h with
  | silent => exact ⟨rfl, rfl, rfl⟩
  | told => exact ⟨rfl, rfl, rfl⟩

theorem leads_activeKeyboard_aside (live : s.installed = some i) :
    Leads (s.activeKeyboard o.environment) fun r new => Aside s new r.2 := by
  simp only [activeKeyboard, live]
  split
  · refine leads_aside_bind (leads_aside_question rfl) fun answer => ?_
    split
    · exact leads_aside_pure rfl rfl
    · exact leads_aside_pure rfl rfl
  · exact leads_aside_pure rfl rfl

theorem leads_letting_aside (x : Option Adaptor) (k : Keyboard) :
    Leads (x.forM fun b => o.environment.ask b (.deactivate k)) fun _ new => Aside s new s := by
  refine (leads_letting x k).mono ?_
  rintro _ _ rfl
  exact .of_silent (deliveries_letting x k)

theorem leads_activate_aside (live : s.installed = some i) (k : Keyboard) :
    Leads (s.activate o.environment k) fun r new => Aside s new r.2 := by
  intro h
  obtain ⟨⟨_, t⟩, new, run, x, rfl, hx⟩ := activates (o := o) live k h
  refine ⟨_, new, run, ?_⟩
  cases hx with
  | zero => exact ⟨rfl, rfl, rfl⟩
  | absent nonzero unusable warned => exact warned.aside
  | unserved nonzero usable unserved warned => exact warned.aside
  | activated =>
    refine ⟨?_, rfl, rfl⟩
    rw [deliveries_append, deliveries_letting]
    rfl
  | refused nonzero usable serves refuses warned =>
    refine (Aside.of_silent (deliveries_letting _ _)).trans ?_
    refine Aside.trans (t := s) (.of_silent rfl) ?_
    exact (Aside.of_silent (deliveries_restoring _ _ _)).trans warned.aside

theorem leads_activateFound_aside (live : s.installed = some i)
    (found : Except SessionError Keyboard) :
    Leads (s.activateFound o.environment found) fun r new => Aside s new r.2 := by
  cases found with
  | error e => exact leads_aside_pure rfl rfl
  | ok k => exact leads_activate_aside live k

theorem leads_activateId_aside (live : s.installed = some i) (id : String) :
    Leads (s.activateId o.environment id) fun r new => Aside s new r.2 := by
  rw [activateId]
  cases s.resolve id with
  | error e => exact leads_aside_pure rfl rfl
  | ok k =>
    dsimp only
    split
    · exact (leads_warning s _ _ _).mono fun _ _ h => h.2.aside
    · exact leads_activate_aside live k

theorem leads_activateFor_aside (live : s.installed = some i) (ws : WritingSystem) :
    Leads (s.activateFor o.environment ws) fun r new => Aside s new r.2 := by
  rw [activateFor]
  cases s.adopt ws with
  | error e => exact leads_aside_pure rfl rfl
  | ok ws =>
    refine (leads_activate_aside live ws.chosen).bind fun r new aside => .pure ?_
    simpa using aside

theorem leads_deactivate_aside (live : s.installed = some i) :
    Leads (s.deactivate o.environment) fun r new => Aside s new r.2 := by
  simp only [deactivate, live]
  split
  · exact leads_aside_bind (leads_letting_aside _ _) fun _ => leads_aside_pure rfl rfl
  · exact leads_aside_pure rfl rfl

theorem leads_insteadOf_aside (x : Option Adaptor) :
    Leads (insteadOf o.environment x) fun _ new => Aside s new s := by
  cases x with
  | none => exact leads_aside_pure rfl rfl
  | some a =>
    refine leads_aside_bind (leads_aside_question rfl) fun extra => ?_
    split
    · exact leads_aside_pure rfl rfl
    · exact leads_aside_question rfl

theorem leads_extraOf_aside (x : Option Adaptor) :
    Leads (extraOf o.environment x) fun _ new => Aside s new s := by
  cases x with
  | none => exact leads_aside_pure rfl rfl
  | some a =>
    refine leads_aside_bind (leads_aside_question rfl) fun extra => ?_
    split
    · exact leads_aside_question rfl
    · exact leads_aside_pure rfl rfl

theorem leads_isExtra_aside (x : Option Adaptor) :
    Leads (isExtra o.environment x) fun _ new => Aside s new s := by
  cases x with
  | none => exact leads_aside_pure rfl rfl
  | some a => exact leads_aside_question rfl

theorem leads_setupFacts_aside (live : s.installed = some i) :
    Leads (s.setupFacts o.environment) fun _ new => Aside s new s := by
  have hmain : Leads (s.setupProgram o.environment) fun _ new => Aside s new s := by
    simp only [setupProgram, live]
    refine leads_aside_bind (leads_insteadOf_aside _) fun found => ?_
    cases found with
    | none => exact .map (leads_aside_question rfl)
    | some p => exact leads_aside_pure rfl rfl
  have hextra : Leads (s.extraSetupProgram o.environment) fun _ new => Aside s new s := by
    simp only [extraSetupProgram, live]
    exact .map (leads_extraOf_aside _)
  have hhas : Leads (s.hasExtraSetupProgram o.environment) fun _ new => Aside s new s := by
    simp only [hasExtraSetupProgram, live]
    exact .map (leads_isExtra_aside _)
  refine leads_aside_bind hmain fun main => leads_aside_bind hextra fun extra =>
    leads_aside_bind hhas fun hasExtra => ?_
  split <;> exact leads_aside_pure rfl rfl

/-- What a command to an open session delivers: the reply, the events and the session afterwards. -/
inductive Delivering (s : Session) (i : Installed) :
    Command → Reply → History → Session → Prop where
  | registered (t : FocusTarget) (handler : Option Handler) :
      Delivering s i (.register t handler) .done (news i.adaptors s.listeners (.added t handler))
        { s with targets := s.targets.insert t handler }
  | unregistered {t : FocusTarget} (known : s.targets.contains t = true) :
      Delivering s i (.unregister t) .done (news i.adaptors s.listeners (.removing t))
        { s with targets := s.targets.erase t }
  | unknown {t : FocusTarget} (unknown : s.targets.contains t = false) :
      Delivering s i (.unregister t) .done [] s
  | listening (l : Listener) :
      Delivering s i (.listen l) .done [] { s with listeners := s.listeners ++ [l] }
  /-- The adaptors that took over were on offer, and they hear of the targets before those that they
  replace are closed. -/
  | replaced {offered : List Adaptor} {j : Installed} {before : History}
      (silent : deliveries before = []) (asked : Asks (fun a _ => a ∈ offered) before)
      (offers : ∀ a ∈ j.adaptors, a ∈ offered) :
      Delivering s i (.replaceAdaptors offered) .done
        (before ++ (announcements s.targets j.adaptors ++ (closings i.adaptors ++ introduction j)))
        (s.withInstalled j)
  | refused {offered : List Adaptor} {e : SessionError} {new : History}
      (silent : deliveries new = []) :
      Delivering s i (.replaceAdaptors offered) (.failed e) new s
  | aside {c : Command} {reply : Reply} {new : History} {t : Session}
      (other : c.isAboutFocus = false) (aside : Aside s new t) : Delivering s i c reply new t

section Commands

variable {c : Command}

theorem leads_delivering_reply {reply : Reply} (other : c.isAboutFocus = false) :
    Leads (pure (reply, s)) fun r new => Delivering s i c r.1 new r.2 :=
  .pure (.aside other (.of_silent rfl))

theorem leads_delivering_query {x : StateM History (Except SessionError α)}
    {f : Except SessionError α → Reply} (other : c.isAboutFocus = false)
    (hx : Leads x fun _ new => Aside s new s) :
    Leads (do pure (f (← x), s)) fun r new => Delivering s i c r.1 new r.2 :=
  (leads_aside_bind hx fun _ => leads_aside_pure (π := Prod.snd) rfl rfl).mono
    fun _ _ aside => .aside other aside

theorem leads_delivering_action {x : StateM History (α × Session)} {f : α → Reply}
    (other : c.isAboutFocus = false) (hx : Leads x fun r new => Aside s new r.2) :
    Leads (do let (r, t) ← x; pure (f r, t)) fun r new => Delivering s i c r.1 new r.2 := by
  refine hx.bind fun r new aside => .pure (.aside other ?_)
  simpa using aside

end Commands

theorem leads_register_delivering (live : s.installed = some i) (t : FocusTarget)
    (handler : Option Handler) : Leads (s.perform o.environment (.register t handler))
      fun r new => Delivering s i (.register t handler) r.1 new r.2 := by
  simp only [perform, register, live]
  refine Leads.bind (P := fun r new => r = (.ok (), { s with
    targets := s.targets.insert t handler }) ∧
    new = news i.adaptors s.listeners (.added t handler)) ?_ ?_
  · refine (leads_deliver i _).bind ?_
    rintro _ _ rfl
    exact .pure ⟨by rw [live], List.append_nil _⟩
  · rintro _ _ ⟨rfl, rfl⟩
    refine .pure ?_
    rw [List.append_nil]
    exact .registered t handler

theorem leads_unregister_delivering (live : s.installed = some i) (t : FocusTarget) :
    Leads (s.perform o.environment (.unregister t))
      fun r new => Delivering s i (.unregister t) r.1 new r.2 := by
  simp only [perform, unregister, live]
  cases hk : s.targets.contains t with
  | true =>
    refine Leads.bind (P := fun r new => r = (.ok (), { s with targets := s.targets.erase t }) ∧
      new = news i.adaptors s.listeners (.removing t)) ?_ ?_
    · refine (leads_deliver i _).bind ?_
      rintro _ _ rfl
      exact .pure ⟨by rw [live], List.append_nil _⟩
    · rintro _ _ ⟨rfl, rfl⟩
      refine .pure ?_
      rw [List.append_nil]
      exact .unregistered hk
  | false => exact .pure (.unknown hk)

theorem leads_replaceAdaptors_delivering (live : s.installed = some i) (offered : List Adaptor) :
    Leads (s.perform o.environment (.replaceAdaptors offered))
      fun r new => Delivering s i (.replaceAdaptors offered) r.1 new r.2 := by
  refine (leads_perform live (.replaceAdaptors offered)).mono ?_
  rintro ⟨reply, t⟩ new hp
  cases hp with
  | steps plain => cases plain
  | refusal live' installing => exact .refused installing.deliveries
  | replacement live' installing =>
    cases live.symm.trans live'
    exact .replaced installing.deliveries (installing.asks.mono fun _ _ asked => asked.1)
      fun a ha => installing.mem_of_mem_adaptors ha

/-- Whatever the command, an open session delivers what `Delivering` lists. -/
theorem leads_delivering (live : s.installed = some i) (c : Command) :
    Leads (s.perform o.environment c) fun r new => Delivering s i c r.1 new r.2 := by
  cases c with
  | register t handler => exact leads_register_delivering live t handler
  | unregister t => exact leads_unregister_delivering live t
  | replaceAdaptors offered => exact leads_replaceAdaptors_delivering live offered
  | listen l =>
    simp only [perform, listen, live]
    refine .pure ?_
    have hl := Delivering.listening (s := s) (i := i) l
    rw [live] at hl
    exact hl
  | resolve | lookup | chosenFor | ofLanguage => exact leads_delivering_reply rfl
  | allKeyboards | availableKeyboards | legacyFor | size => exact leads_delivering_reply rfl
  | adaptorNames | isRegistered | handlerOf | targetCount => exact leads_delivering_reply rfl
  | settings | isDisposed => exact leads_delivering_reply rfl
  | describe layout locale =>
    exact leads_delivering_query rfl
      ((leads_describe live layout locale).mono fun _ _ asking => asking.aside)
  | defaultKeyboard =>
    exact leads_delivering_query rfl
      ((leads_defaultKeyboard live).mono fun _ _ asking => asking.aside)
  | defaultFor ws =>
    exact leads_delivering_query rfl
      ((leads_defaultFor live ws).mono fun _ _ asking => asking.aside)
  | activeKeyboard => exact leads_delivering_action rfl (leads_activeKeyboard_aside live)
  | activate k => exact leads_delivering_action rfl (leads_activate_aside live k)
  | activateId id => exact leads_delivering_action rfl (leads_activateId_aside live id)
  | activateKey layout locale =>
    exact leads_delivering_action rfl (leads_activateFound_aside live _)
  | activateLanguage language =>
    exact leads_delivering_action rfl (leads_activateFound_aside live _)
  | activateDefault =>
    refine leads_delivering_action rfl (leads_aside_bind ?_ (leads_activateFound_aside live))
    exact (leads_defaultKeyboard live).mono fun _ _ asking => asking.aside
  | activateDescribed layout locale =>
    refine leads_delivering_action rfl (leads_aside_bind ?_ (leads_activateFound_aside live))
    exact (leads_describe live layout locale).mono fun _ _ asking => asking.aside
  | activateFor ws =>
    refine (leads_activateFor_aside live ws).bind fun r new aside => .pure (.aside rfl ?_)
    simpa using aside
  | deactivate => exact leads_delivering_action rfl (leads_deactivate_aside live)
  | setup =>
    refine (leads_setupFacts_aside live).bind fun r new aside => .pure (.aside rfl ?_)
    simpa using aside
  | refresh =>
    refine (leads_perform live .refresh).mono ?_
    rintro ⟨reply, t⟩ new hp
    cases hp with
    | steps plain => cases plain
    | refresh live' listed =>
      exact .aside rfl ⟨deliveries_enumerations _, rfl, rfl⟩
  | shutDown =>
    refine (leads_perform live .shutDown).mono ?_
    rintro ⟨reply, t⟩ new hp
    cases hp with
    | steps plain => cases plain
    | shutDown live' => exact .aside rfl ⟨deliveries_closings _, rfl, rfl⟩

end Session

end Keyboards
