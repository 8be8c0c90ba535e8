import Keyboards.Proofs.Session.Steps

/-! What each operation on a session comes to, in steps. -/

namespace Keyboards.Session

open History

variable {o : Oracle} {s t : Session} {i : Installed} {g h : History}

/-- The outcome of a request to activate a keyboard, reached in steps. -/
def Activating (s : Session) (result : Except SessionError Activation) (new : History)
    (t : Session) : Prop :=
  Steps s new t ∧ (result = .ok .activated → Switched s new t)

theorem Activating.of_ne {result : Except SessionError Activation} (path : Steps s g t)
    (hne : result ≠ .ok .activated) : Activating s result g t :=
  ⟨path, fun he => (hne he).elim⟩

/-- A question in front changes nothing about an activation. -/
theorem Activating.question {a : Adaptor} {r : Request} {result : Except SessionError Activation}
    (live : s.installed = some i) (mem : a ∈ i.adaptors) (asks : r.isQuestion = true)
    (answer : r.Answer) (h : Activating s result g t) :
    Activating s result ([.asked a r answer] ++ g) t := by
  obtain ⟨path, switched⟩ := h
  refine ⟨(Steps.single (.question live mem asks answer)).trans path, fun he => ?_⟩
  obtain ⟨i, k, r', c, b, asked, live, usable, serves, asks', rfl, rfl⟩ := switched he
  refine ⟨i, k, r', c, b, [.asked a r answer] ++ asked, live, usable, serves, ?_,
    by rw [List.append_assoc], rfl⟩
  intro e he
  rcases List.mem_append.1 he with he | he
  · rw [List.mem_singleton.1 he]
    exact ⟨a, r, answer, asks, rfl⟩
  · exact asks' e he

/-- What a warning comes to: each identifier is reported once, if problems are reported at all. -/
inductive Warned (s : Session) (id message : String) : History → Session → Prop where
  | silent (known : s.settings.notifyUnresolved = true → id ∈ s.warned) :
      Warned s id message [] s
  | told (notify : s.settings.notifyUnresolved = true) (fresh : id ∉ s.warned) :
      Warned s id message [.reported (.problem message)] { s with warned := s.warned ++ [id] }

theorem leads_warnOnce (s : Session) (id message : String) :
    Leads (s.warnOnce o.environment id message) fun t new => Warned s id message new t := by
  rw [warnOnce]
  by_cases hq : (!s.settings.notifyUnresolved || s.warned.contains id) = true
  · rw [if_pos hq]
    exact .pure (.silent (by simpa [or_iff_not_imp_left] using hq))
  · rw [if_neg hq]
    simp only [Bool.or_eq_true, Bool.not_eq_true', not_or, Bool.not_eq_false,
      List.contains_iff_mem] at hq
    refine Leads.bind (P := fun _ new => new = [.reported (.problem message)])
      (.report rfl) ?_
    rintro _ _ rfl
    exact .pure (.told hq.1 hq.2)

/-- A result that is given after a warning: nothing happens but the warning. -/
theorem leads_warning {α : Type} (s : Session) (id message : String) (result : α) :
    Leads (do let t ← s.warnOnce o.environment id message; pure (result, t)) fun r new =>
      r.1 = result ∧ Warned s id message new r.2 := by
  refine (leads_warnOnce s id message).bind fun t new warned => .pure ⟨rfl, ?_⟩
  rwa [List.append_nil]

theorem Warned.steps {id message : String} (h : Warned s id message g t)
    (live : s.installed = some i) : Steps s g t := by
  cases h with
  | silent => exact .refl s
  | told notify fresh => exact .single (.warning live notify fresh message)

theorem leads_letting (a : Option Adaptor) (k : Keyboard) :
    Leads (a.forM fun b => o.environment.ask b (.deactivate k)) fun _ new => new = letting a k := by
  cases a with
  | none => exact .pure rfl
  | some a => exact .ask (r := .deactivate k) fun _ => rfl

theorem leads_restoring (a : Option Adaptor) (k : Keyboard) :
    Leads (a.forM fun b => discard (o.environment.ask b (.activate k))) fun _ new =>
      ∃ answer, new = restoring a k answer := by
  cases a with
  | none => exact .pure ⟨.ok (), rfl⟩
  | some a => exact .map (.ask fun answer => ⟨answer, rfl⟩)

theorem leads_defaultOf (i : Installed) :
    Leads (defaultOf o.environment i) fun _ new =>
      ∃ answer, new = [.asked i.primary .defaultKeyboard answer] := by
  refine Leads.bind (P := fun answer new => new = [.asked i.primary .defaultKeyboard answer])
    (.ask fun _ => rfl) ?_
  rintro answer _ rfl
  cases answer with
  | none => exact .pure ⟨none, rfl⟩
  | some k => exact .pure ⟨some k, rfl⟩

/-- What a session says without changing: nothing is asked, or one question. -/
def Asking (i : Installed) (new : History) : Prop :=
  new = [] ∨ ∃ a r, ∃ answer : Request.Answer r, a ∈ i.adaptors ∧ r.isQuestion = true ∧
    new = [.asked a r answer]

theorem Asking.steps (live : s.installed = some i) (h : Asking i g) : Steps s g s := by
  rcases h with rfl | ⟨a, r, answer, mem, asks, rfl⟩
  · exact .refl s
  · exact .single (.question live mem asks answer)

theorem Asking.activating {result : Except SessionError Activation}
    (live : s.installed = some i) (hg : Asking i g) (hh : Activating s result h t) :
    Activating s result (g ++ h) t := by
  rcases hg with rfl | ⟨a, r, answer, mem, asks, rfl⟩
  · exact hh
  · exact hh.question live mem asks answer

theorem primary_mem (i : Installed) : i.primary ∈ i.adaptors := List.mem_cons_self

theorem leads_defaultKeyboard (live : s.installed = some i) :
    Leads (s.defaultKeyboard o.environment) fun _ new => Asking i new := by
  simp only [defaultKeyboard, live]
  refine .map ((leads_defaultOf i).mono ?_)
  rintro _ _ ⟨answer, rfl⟩
  exact .inr ⟨i.primary, .defaultKeyboard, answer, primary_mem i, rfl, rfl⟩

theorem leads_describe (live : s.installed = some i) (layout locale : String) :
    Leads (s.describe o.environment layout locale) fun _ new => Asking i new := by
  simp only [describe, live]
  cases i.catalog.get? layout locale with
  | some k => exact .pure (.inl rfl)
  | none =>
    exact .map (.ask fun answer =>
      .inr ⟨i.primary, .describe layout locale, answer, primary_mem i, rfl, rfl⟩)

theorem leads_defaultFor (live : s.installed = some i) (ws : WritingSystem) :
    Leads (s.defaultFor o.environment ws) fun _ new => Asking i new := by
  rw [defaultFor]
  cases s.legacyFor ws with
  | error e => exact .pure (.inl rfl)
  | ok found =>
    cases found with
    | some k => exact .pure (.inl rfl)
    | none => exact leads_defaultKeyboard live

theorem leads_activeKeyboard (live : s.installed = some i) :
    Leads (s.activeKeyboard o.environment) fun r new => Steps s new r.2 := by
  simp only [activeKeyboard, live]
  by_cases hq : (i.active.isZero && s.settings.queryHostActive) = true
  · rw [if_pos hq]
    refine Leads.bind (P := fun answer new => new = [.asked i.primary .activeKeyboard answer])
      (.ask fun _ => rfl) ?_
    rintro answer _ rfl
    have hidle : i.active.isZero = true := (Bool.and_eq_true_iff.1 hq).1
    have hask : Steps s [.asked i.primary .activeKeyboard answer] s :=
      .single (.question live (primary_mem i) rfl answer)
    cases answer with
    | none => exact .pure hask
    | some p =>
      obtain ⟨layout, locale⟩ := p
      cases hk : i.catalog.get? layout locale with
      | none =>
        simp only [Option.bind_some, hk]
        exact .pure hask
      | some k =>
        simp only [Option.bind_some, hk]
        exact .pure (.single (.adoption live hidle hk))
  · rw [if_neg hq]
    exact .pure (.refl s)

/-- An adaptor that serves a category serves it still after another one let go: it is found again,
and what it answers to the request is the outcome. -/
theorem run_handOver {c : Category} {a : Adaptor} (serves : i.serving c = some a) (r : Keyboard)
    (h : History) :
    let answer := o (h ++ letting (leaving? i c) i.active) a (.activate r)
    (handOver o.environment i c r).run h = (some answer,
      h ++ (letting (leaving? i c) i.active ++ [.asked a (.activate r) answer])) := by
  intro answer
  obtain ⟨_, _, hleft, rfl⟩ := leads_letting (o := o) (leaving? i c) i.active h
  rw [handOver, serves, ← List.append_assoc]
  exact congrArg (fun p => (some <$> o.environment.ask a (.activate r) : StateM History _) p.2) hleft

/-- What a request to activate a keyboard comes to after some history, by what the adaptors answer. -/
inductive Activates (o : Oracle) (h : History) (s : Session) (i : Installed) (k : Keyboard) :
    Activation → History → Session → Prop where
  | zero (zero : k.isZero = true) : Activates o h s i k .noKeyboard [] s
  | absent {t : Session} {new : History} (nonzero : k.isZero = false)
      (unusable : usable? i k = none)
      (warned : Warned s k.legacyId
        ("The keyboard '" ++ k.name ++ "' is not installed on this computer.") new t) :
      Activates o h s i k .failed new t
  | unserved {r : Keyboard} {c : Category} {t : Session} {new : History}
      (nonzero : k.isZero = false) (usable : usable? i k = some (r, c))
      (unserved : i.serving c = none)
      (warned : Warned s k.legacyId
        ("No keyboard system is available to activate '" ++ r.name ++ "'.") new t) :
      Activates o h s i k .failed new t
  | activated {r : Keyboard} {c : Category} {a : Adaptor} (nonzero : k.isZero = false)
      (usable : usable? i k = some (r, c)) (serves : i.serving c = some a)
      (accepts : o (h ++ letting (leaving? i c) i.active) a (.activate r) = .ok ()) :
      Activates o h s i k .activated
        (letting (leaving? i c) i.active ++ [.asked a (.activate r) (.ok ())]) (s.withActive i r)
  | refused {r : Keyboard} {c : Category} {a : Adaptor} {e : AdaptorError}
      {back : Except AdaptorError Unit} {t : Session} {new : History}
      (nonzero : k.isZero = false) (usable : usable? i k = some (r, c))
      (serves : i.serving c = some a)
      (refuses : o (h ++ letting (leaving? i c) i.active) a (.activate r) = .error e)
      (warned : Warned s k.legacyId
        ("The keyboard '" ++ r.name ++ "' could not be activated: " ++ e.message) new t) :
      Activates o h s i k .failed (letting (leaving? i c) i.active ++
        ([.asked a (.activate r) (.error e)] ++ (restoring (leaving? i c) i.active back ++ new))) t

/-- Whatever the adaptors answer, a request to activate a keyboard comes to one of these. -/
theorem activates (live : s.installed = some i) (k : Keyboard) (h : History) :
    ∃ r new, s.activate o.environment k h = (r, h ++ new) ∧
      ∃ x, r.1 = .ok x ∧ Activates o h s i k x new r.2 := by
  simp only [activate, live]
  by_cases zero : k.isZero = true
  · rw [if_pos zero]
    exact ⟨_, [], by rw [List.append_nil]; rfl, .noKeyboard, rfl, .zero zero⟩
  rw [if_neg zero]
  rw [Bool.not_eq_true] at zero
  cases usable : usable? i k with
  | none =>
    obtain ⟨⟨_, t⟩, new, run, rfl, warned⟩ := leads_warning (o := o) s k.legacyId
      ("The keyboard '" ++ k.name ++ "' is not installed on this computer.")
      (Except.ok Activation.failed) h
    exact ⟨_, new, run, .failed, rfl, .absent zero usable warned⟩
  | some rc =>
    obtain ⟨r, c⟩ := rc
    dsimp only
    cases serves : i.serving c with
    | none =>
      obtain ⟨⟨_, t⟩, new, run, rfl, warned⟩ := leads_warning (o := o) s k.legacyId
        ("No keyboard system is available to activate '" ++ r.name ++ "'.")
        (Except.ok Activation.failed) h
      exact ⟨_, new, run, .failed, rfl, .unserved zero usable serves warned⟩
    | some a =>
      -- the second lookup finds what the first one found
      refine Leads.bind_at (run_handOver serves r h) ?_
      cases answer : o (h ++ letting (leaving? i c) i.active) a (.activate r) with
      | ok =>
        refine ⟨_, [], by rw [List.append_nil]; rfl, .activated, rfl, ?_⟩
        rw [List.append_nil]
        exact .activated zero usable serves answer
      | error e =>
        obtain ⟨_, _, hback, back, rfl⟩ := leads_restoring (o := o) (leaving? i c) i.active
          (h ++ (letting (leaving? i c) i.active ++ [.asked a (.activate r) (.error e)]))
        obtain ⟨⟨_, t⟩, new, run, rfl, warned⟩ := leads_warning (o := o) s k.legacyId
          ("The keyboard '" ++ r.name ++ "' could not be activated: " ++ e.message)
          (Except.ok Activation.failed)
          (h ++ (letting (leaving? i c) i.active ++ [.asked a (.activate r) (.error e)]) ++
            restoring (leaving? i c) i.active back)
        refine Leads.bind_at hback ⟨_, new, run, .failed, rfl, ?_⟩
        rw [List.append_assoc]
        exact .refused zero usable serves answer warned

theorem leads_activate (live : s.installed = some i) (k : Keyboard) :
    Leads (s.activate o.environment k) fun r new => Activating s r.1 new r.2 := by
  intro h
  obtain ⟨⟨_, t⟩, new, run, x, rfl, hx⟩ := activates (o := o) live k h
  refine ⟨_, new, run, ?_⟩
  cases hx with
  | zero => exact .of_ne (.refl _) (by simp)
  | absent nonzero unusable warned => exact .of_ne (warned.steps live) (by simp)
  | unserved nonzero usable unserved warned => exact .of_ne (warned.steps live) (by simp)
  | activated nonzero usable serves =>
    exact ⟨.single (.switch live usable serves), fun _ =>
      ⟨i, k, _, _, _, [], live, usable, serves, by simp, rfl, rfl⟩⟩
  | refused nonzero usable serves refuses warned =>
    rename_i e back _
    have path := (Steps.single (.failure live usable serves e back)).trans (warned.steps live)
    simp only [List.append_assoc] at path
    exact .of_ne path (by simp)

theorem leads_activateFound (live : s.installed = some i) (found : Except SessionError Keyboard) :
    Leads (s.activateFound o.environment found) fun r new => Activating s r.1 new r.2 := by
  cases found with
  | error e => exact .pure (.of_ne (.refl s) (by simp))
  | ok k => exact leads_activate live k

theorem run_activates (live : s.installed = some i) (k : Keyboard) (h : History) :
    ∃ x t new, (s.perform o.environment (.activate k)).run h = ((.activation x, t), h ++ new) ∧
      Activates o h s i k x new t := by
  obtain ⟨⟨_, t⟩, new, run, x, rfl, hx⟩ := activates (o := o) live k h
  have hrun : (s.perform o.environment (.activate k)).run h =
      let p := s.activate o.environment k h; ((.of .activation p.1.1, p.1.2), p.2) := rfl
  exact ⟨x, t, new, by rw [hrun, run]; rfl, hx⟩

/-- What it comes to where an adaptor serves the entry that is meant. -/
theorem Activates.of_serves {k r : Keyboard} {c : Category} {a : Adaptor} {x : Activation}
    (hx : Activates o h s i k x g t) (nonzero : k.isZero = false)
    (usable : usable? i k = some (r, c)) (serves : i.serving c = some a) :
    (o (h ++ letting (leaving? i c) i.active) a (.activate r) = .ok () ∧ x = .activated ∧
      g = letting (leaving? i c) i.active ++ [.asked a (.activate r) (.ok ())] ∧
      t = s.withActive i r) ∨
    ∃ e back reports,
      o (h ++ letting (leaving? i c) i.active) a (.activate r) = .error e ∧ x = .failed ∧
      g = letting (leaving? i c) i.active ++ ([.asked a (.activate r) (.error e)] ++
        (restoring (leaving? i c) i.active back ++ reports)) ∧
      Warned s k.legacyId
        ("The keyboard '" ++ r.name ++ "' could not be activated: " ++ e.message) reports t := by
  cases hx with
  | zero zero => cases nonzero.symm.trans zero
  | absent _ unusable => cases usable.symm.trans unusable
  | unserved _ usable' unserved =>
    cases usable.symm.trans usable'
    cases serves.symm.trans unserved
  | activated _ usable' serves' accepts =>
    cases usable.symm.trans usable'
    cases serves.symm.trans serves'
    exact .inl ⟨accepts, rfl, rfl, rfl⟩
  | refused _ usable' serves' refuses warned =>
    cases usable.symm.trans usable'
    cases serves.symm.trans serves'
    exact .inr ⟨_, _, _, refuses, rfl, rfl, warned⟩

/-- A keyboard that its adaptor accepts gets into use after the other category was left. -/
theorem run_activate {k r : Keyboard} {c : Category} {a : Adaptor} (live : s.installed = some i)
    (usable : usable? i k = some (r, c)) (nonzero : k.isZero = false)
    (serves : i.serving c = some a)
    (accepts : o (h ++ letting (leaving? i c) i.active) a (.activate r) = .ok ()) :
    (s.perform o.environment (.activate k)).run h = ((.activation .activated, s.withActive i r),
      h ++ letting (leaving? i c) i.active ++ [.asked a (.activate r) (.ok ())]) := by
  obtain ⟨x, t, new, run, hx⟩ := run_activates (o := o) live k h
  obtain ⟨-, rfl, rfl, rfl⟩ | ⟨e, -, -, refuses, -⟩ := hx.of_serves nonzero usable serves
  · rw [run, List.append_assoc]
  · cases accepts.symm.trans refuses

theorem leads_activateId (live : s.installed = some i) (id : String) :
    Leads (s.activateId o.environment id) fun r new => Activating s r.1 new r.2 := by
  rw [activateId]
  cases s.resolve id with
  | error e => exact .pure (.of_ne (.refl s) (by simp))
  | ok k =>
    by_cases hz : k.isZero = true
    · simp only [hz, if_true]
      refine (leads_warning s _ _ _).mono ?_
      rintro ⟨_, t⟩ new ⟨rfl, warned⟩
      exact .of_ne (warned.steps live) (by simp)
    · simp only [hz]
      exact leads_activate live k

theorem leads_activateDefault (live : s.installed = some i) :
    Leads (s.activateDefault o.environment) fun r new => Activating s r.1 new r.2 :=
  (leads_defaultKeyboard live).bind fun found _ asking =>
    (leads_activateFound live found).mono fun _ _ h => asking.activating live h

theorem leads_activateDescribed (live : s.installed = some i) (layout locale : String) :
    Leads (s.activateDescribed o.environment layout locale) fun r new =>
      Activating s r.1 new r.2 :=
  (leads_describe live layout locale).bind fun found _ asking =>
    (leads_activateFound live found).mono fun _ _ h => asking.activating live h

theorem leads_activateFor (live : s.installed = some i) (ws : WritingSystem) :
    Leads (s.activateFor o.environment ws) fun r new => Activating s r.1.1 new r.2 := by
  rw [activateFor]
  cases s.adopt ws with
  | error e => exact .pure (.of_ne (.refl s) (by simp))
  | ok ws =>
    refine (leads_activate live ws.chosen).bind fun r new h => .pure ?_
    simpa using h

theorem leads_deactivate (live : s.installed = some i) :
    Leads (s.deactivate o.environment) fun r new => Steps s new r.2 := by
  simp only [deactivate, live]
  have hr : Steps s _ _ := .single (.release live)
  by_cases hz : i.active.isZero = true
  · simp only [hz, Bool.not_true, Bool.false_eq_true, if_false, if_true] at hr ⊢
    exact .pure hr
  · simp only [hz, Bool.not_false, if_true] at hr ⊢
    refine (leads_letting _ _).bind ?_
    rintro _ _ rfl
    refine .pure ?_
    simpa [withActive, withInstalled] using hr

theorem leads_deliver (i : Installed) (e : FocusEvent) :
    Leads (s.deliver o.environment i e) fun _ new => new = news i.adaptors s.listeners e := by
  refine (Leads.forM (fun a => [.asked a (.focus e) ()])
    (fun _ => .ask (r := .focus e) fun _ => rfl) i.adaptors).bind ?_
  rintro _ _ rfl
  refine (Leads.forM (fun l => [.told l e]) (fun _ => .tell rfl) s.listeners).mono ?_
  rintro _ _ rfl
  rw [news, List.map_eq_flatMap, List.map_eq_flatMap]

theorem leads_register (live : s.installed = some i) (t : FocusTarget) (handler : Option Handler) :
    Leads (s.register o.environment t handler) fun r new => Steps s new r.2 := by
  simp only [register, live]
  refine (leads_deliver i _).bind ?_
  rintro _ _ rfl
  refine .pure ?_
  simpa [live] using Steps.single (.register live t handler)

theorem leads_unregister (live : s.installed = some i) (t : FocusTarget) :
    Leads (s.unregister o.environment t) fun r new => Steps s new r.2 := by
  simp only [unregister, live]
  by_cases hk : s.targets.contains t = true
  · rw [if_pos hk]
    refine (leads_deliver i _).bind ?_
    rintro _ _ rfl
    refine .pure ?_
    simpa [live] using Steps.single (.unregister live hk)
  · rw [if_neg hk]
    exact .pure (.refl s)

theorem steps_listen (live : s.installed = some i) (l : Listener) :
    Steps s [] (s.listen l).2 := by
  simpa [listen, live] using Steps.single (.listen live l)

theorem mem_secondary {a : Adaptor} (h : i.secondary = some a) : a ∈ i.adaptors := by
  simp [Installed.adaptors, h]

theorem steps_question {a : Adaptor} {r : Request} (live : s.installed = some i)
    (mem : a ∈ i.adaptors) (asks : r.isQuestion = true) (answer : r.Answer) :
    Steps s [.asked a r answer] s := .single (.question live mem asks answer)

theorem leads_insteadOf (live : s.installed = some i) :
    Leads (insteadOf o.environment i.secondary) fun _ new => Steps s new s := by
  cases hs : i.secondary with
  | none => exact .pure (.refl s)
  | some a =>
    refine Leads.bind (P := fun answer new => new = [.asked a .setupIsExtra answer])
      (.ask fun _ => rfl) ?_
    rintro answer _ rfl
    have hask : Steps s _ s := steps_question live (mem_secondary hs) rfl answer
    cases answer with
    | true => exact .pure hask
    | false =>
      exact .ask fun p => hask.trans (steps_question live (mem_secondary hs) rfl p)

theorem leads_extraOf (live : s.installed = some i) :
    Leads (extraOf o.environment i.secondary) fun _ new => Steps s new s := by
  cases hs : i.secondary with
  | none => exact .pure (.refl s)
  | some a =>
    refine Leads.bind (P := fun answer new => new = [.asked a .setupIsExtra answer])
      (.ask fun _ => rfl) ?_
    rintro answer _ rfl
    have hask : Steps s _ s := steps_question live (mem_secondary hs) rfl answer
    cases answer with
    | true => exact .ask fun p => hask.trans (steps_question live (mem_secondary hs) rfl p)
    | false => exact .pure hask

theorem leads_isExtra (live : s.installed = some i) :
    Leads (isExtra o.environment i.secondary) fun _ new => Steps s new s := by
  cases hs : i.secondary with
  | none => exact .pure (.refl s)
  | some a => exact .ask fun answer => steps_question live (mem_secondary hs) rfl answer

theorem leads_setupProgram (live : s.installed = some i) :
    Leads (s.setupProgram o.environment) fun r new => r.isOk = true ∧ Steps s new s := by
  simp only [setupProgram, live]
  refine (leads_insteadOf live).bind fun found new path => ?_
  cases found with
  | some p =>
    refine .pure ⟨rfl, ?_⟩
    simpa using path
  | none =>
    refine .map (.ask fun answer => ⟨rfl, ?_⟩)
    exact path.trans (steps_question live (primary_mem i) rfl answer)

theorem leads_setupFacts (live : s.installed = some i) :
    Leads (s.setupFacts o.environment) fun r new => r.isActivated = false ∧ Steps s new s := by
  refine (leads_setupProgram live).bind ?_
  rintro first g ⟨-, hg⟩
  refine Leads.bind (P := fun _ new => Steps s new s) ?_ fun second h hh => ?_
  · simp only [extraSetupProgram, live]
    exact .map (leads_extraOf live)
  refine Leads.bind (P := fun _ new => Steps s new s) ?_ fun third k hk => ?_
  · simp only [hasExtraSetupProgram, live]
    exact .map (leads_isExtra live)
  have path : Steps s (g ++ (h ++ (k ++ []))) s := by
    simpa using hg.trans (hh.trans hk)
  cases first with
  | error e => exact .pure ⟨rfl, path⟩
  | ok main =>
    cases second with
    | error e => exact .pure ⟨rfl, path⟩
    | ok extra =>
      cases third with
      | error e => exact .pure ⟨rfl, path⟩
      | ok hasExtra => exact .pure ⟨rfl, path⟩

theorem leads_replaceAdaptors (live : s.installed = some i) (offered : List Adaptor) :
    Leads (s.replaceAdaptors o.environment offered) fun r new =>
      Performed s (.replaceAdaptors offered) (.of (fun _ => .done) r.1) new r.2 := by
  simp only [replaceAdaptors, live]
  refine (leads_install offered).bind fun result new installing => ?_
  cases result with
  | error e =>
    refine .pure ?_
    simpa [Reply.of] using Performed.refusal live installing
  | ok j =>
    refine (leads_announce s.targets j.adaptors).bind ?_
    rintro _ _ rfl
    refine (leads_closeAll i.adaptors).bind ?_
    rintro _ _ rfl
    refine (leads_reportAdaptors j).bind ?_
    rintro _ _ rfl
    refine .pure ?_
    simpa [withInstalled, Reply.of] using Performed.replacement live installing

theorem leads_refresh (live : s.installed = some i) :
    Leads (s.refresh o.environment) fun r new =>
      Performed s .refresh (.of (fun _ => .done) r.1) new r.2 := by
  simp only [refresh, live]
  refine (leads_enumerate i.adaptors).bind ?_
  rintro _ _ ⟨offers, listed, rfl, rfl⟩
  refine .pure ?_
  simpa [refreshed, withInstalled, Reply.of] using Performed.refresh live listed

theorem leads_shutDown (live : s.installed = some i) :
    Leads (s.shutDown o.environment) fun t new =>
      new = closings i.adaptors ∧ t = { s with installed := none } := by
  simp only [shutDown, live]
  refine (leads_closeAll i.adaptors).bind ?_
  rintro _ _ rfl
  exact .pure ⟨List.append_nil _, rfl⟩

theorem Activating.performed {c : Command} {result : Except SessionError Activation}
    (plain : c.isPlain = true) (h : Activating s result g t) :
    Performed s c (.of .activation result) g t := by
  refine .steps plain h.1 fun hr => h.2 ?_
  cases result with
  | error e => simp [Reply.of, Reply.isActivated] at hr
  | ok a => cases a <;> simp_all [Reply.of, Reply.isActivated]

theorem Activating.performedFor {c : Command} {result : Except SessionError Activation}
    {ws : WritingSystem} (plain : c.isPlain = true) (h : Activating s result g t) :
    Performed s c (.activationFor result ws) g t := by
  refine .steps plain h.1 fun hr => h.2 ?_
  cases result with
  | error e => simp [Reply.isActivated] at hr
  | ok a => cases a <;> simp_all [Reply.isActivated]

/-- Steps after which the reply speaks of no activation. -/
theorem Steps.performed {c : Command} {reply : Reply} (plain : c.isPlain = true)
    (path : Steps s g t) (hr : reply.isActivated = false) : Performed s c reply g t :=
  .steps plain path fun he => by simp [hr] at he

theorem isActivated_of {α : Type} {f : α → Reply} (hf : ∀ a, (f a).isActivated = false)
    (r : Except SessionError α) : (Reply.of f r).isActivated = false := by
  cases r with
  | error e => rfl
  | ok a => exact hf a

theorem leads_reply {c : Command} {reply : Reply} (plain : c.isPlain = true)
    (hr : reply.isActivated = false) :
    Leads (pure (reply, s)) fun r new => Performed s c r.1 new r.2 :=
  .pure (Steps.performed plain (.refl s) hr)

theorem leads_asking {α : Type} {c : Command} {x : StateM History (Except SessionError α)}
    {f : α → Reply} (live : s.installed = some i) (plain : c.isPlain = true)
    (hf : ∀ a, (f a).isActivated = false) (hx : Leads x fun _ new => Asking i new) :
    Leads (do pure (.of f (← x), s)) fun r new => Performed s c r.1 new r.2 := by
  refine hx.bind fun a new asking => .pure (Steps.performed plain ?_ (isActivated_of hf a))
  simpa using asking.steps live

theorem leads_steps {α : Type} {c : Command}
    {x : StateM History (Except SessionError α × Session)} {f : α → Reply}
    (plain : c.isPlain = true) (hf : ∀ a, (f a).isActivated = false)
    (hx : Leads x fun r new => Steps s new r.2) :
    Leads (do let (r, t) ← x; pure (.of f r, t)) fun r new => Performed s c r.1 new r.2 := by
  refine hx.bind fun r new path => .pure (Steps.performed plain ?_ (isActivated_of hf r.1))
  simpa using path

theorem leads_activating {c : Command}
    {x : StateM History (Except SessionError Activation × Session)} (plain : c.isPlain = true)
    (hx : Leads x fun r new => Activating s r.1 new r.2) :
    Leads (do let (r, t) ← x; pure (.of .activation r, t)) fun r new =>
      Performed s c r.1 new r.2 := by
  refine hx.bind fun r new h => .pure ?_
  simpa using h.performed plain

/-- Whatever the command, an open session does one of the things that `Performed` lists. -/
theorem leads_perform (live : s.installed = some i) (c : Command) :
    Leads (s.perform o.environment c) fun r new => Performed s c r.1 new r.2 := by
  cases c with
  | resolve | lookup | chosenFor | ofLanguage =>
    exact leads_reply rfl (isActivated_of (fun _ => rfl) _)
  | allKeyboards | availableKeyboards | legacyFor | size =>
    exact leads_reply rfl (isActivated_of (fun _ => rfl) _)
  | adaptorNames | isRegistered | handlerOf | targetCount =>
    exact leads_reply rfl (isActivated_of (fun _ => rfl) _)
  | settings | isDisposed => exact leads_reply rfl rfl
  | describe layout locale =>
    exact leads_asking live rfl (fun _ => rfl) (leads_describe live layout locale)
  | defaultKeyboard => exact leads_asking live rfl (fun _ => rfl) (leads_defaultKeyboard live)
  | defaultFor ws => exact leads_asking live rfl (fun _ => rfl) (leads_defaultFor live ws)
  | activeKeyboard => exact leads_steps rfl (fun _ => rfl) (leads_activeKeyboard live)
  | activate k => exact leads_activating rfl (leads_activate live k)
  | activateId id => exact leads_activating rfl (leads_activateId live id)
  | activateKey layout locale => exact leads_activating rfl (leads_activateFound live _)
  | activateLanguage language => exact leads_activating rfl (leads_activateFound live _)
  | activateDefault => exact leads_activating rfl (leads_activateDefault live)
  | activateDescribed layout locale =>
    exact leads_activating rfl (leads_activateDescribed live layout locale)
  | activateFor ws =>
    refine (leads_activateFor live ws).bind fun r new h => .pure ?_
    simpa using h.performedFor rfl
  | deactivate => exact leads_steps rfl (fun _ => rfl) (leads_deactivate live)
  | setup =>
    refine (leads_setupFacts live).bind fun r new h => .pure (Steps.performed rfl ?_ h.1)
    simpa using h.2
  | register t handler => exact leads_steps rfl (fun _ => rfl) (leads_register live t handler)
  | unregister t => exact leads_steps rfl (fun _ => rfl) (leads_unregister live t)
  | listen l =>
    exact .pure (Steps.performed rfl (steps_listen live l) (isActivated_of (fun _ => rfl) _))
  | replaceAdaptors offered =>
    refine (leads_replaceAdaptors live offered).bind fun r new h => .pure ?_
    simpa using h
  | refresh =>
    refine (leads_refresh live).bind fun r new h => .pure ?_
    simpa using h
  | shutDown =>
    refine (leads_shutDown live).bind ?_
    rintro _ _ ⟨rfl, rfl⟩
    refine .pure ?_
    simpa using Performed.shutDown live

/-- A session that was shut down only replies, and never that it activated a keyboard. -/
theorem perform_disposed (gone : s.installed = none) (c : Command) :
    ∃ reply, s.perform o.environment c = pure (reply, s) ∧ reply.isActivated = false := by
  obtain ⟨settings, installed, warned, targets, listeners⟩ := s
  cases gone
  cases c <;> exact ⟨_, rfl, rfl⟩

end Keyboards.Session
