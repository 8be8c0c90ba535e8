import Keyboards.Proofs.Session.Problems

/-! The user hears of every problem once, whatever commands are carried out in between. -/

namespace Keyboards

namespace History

variable {g h : History}

@[simp] theorem problems_news (as : List Adaptor) (ls : List Listener) (e : FocusEvent) :
    problems (news as ls e) = [] := by
  simp [problems, Journal.problems, journal, news]

@[simp] theorem problems_introduction (i : Installed) : problems (introduction i) = [] := rfl

end History

namespace Session

open History

variable {o : Oracle} {s t : Session} {i : Installed} {k : Keyboard} {g h new : History}
  {c : Command} {reply : Reply}

/-! Commands that activate nothing: the user hears of nothing, and what the user heard of before
stays known. -/

theorem Step.settings (h : Step s new t) : t.settings = s.settings := by
  cases h <;> rfl

/-- Only a step that tells the user of a problem makes its identifier known. -/
theorem Step.warned (h : Step s new t) (quiet : problems new = []) : t.warned = s.warned := by
  cases h with
  | warning => cases quiet
  | question | adoption | switch | failure | release | register | unregister | listen => rfl

theorem Steps.noted (h : Steps s new t) (quiet : problems new = []) : Noted s [] new t := by
  suffices he : t.settings = s.settings ∧ t.warned = s.warned from .nil he.1 he.2 quiet
  induction h with
  | refl => exact ⟨rfl, rfl⟩
  | tail before last ih =>
    rw [problems_append, List.append_eq_nil_iff] at quiet
    obtain ⟨hsettings, hwarned⟩ := ih quiet.1
    exact ⟨last.settings.trans hsettings, (last.warned quiet.2).trans hwarned⟩

/-- Replies of commands that activate nothing, given while the user heard of nothing. -/
def Quiet (reply : Reply) (new : History) : Prop := reply.isFailure = false ∧ problems new = []

theorem isFailure_of {α : Type} {f : α → Reply} (hf : ∀ a, (f a).isFailure = false)
    (r : Except SessionError α) : (Reply.of f r).isFailure = false := by
  cases r with
  | error e => rfl
  | ok a => exact hf a

theorem leads_quiet_reply (hr : reply.isFailure = false) :
    Leads (pure (reply, s)) fun r new => Quiet r.1 new := .pure ⟨hr, rfl⟩

theorem leads_quiet_asking {α : Type} {x : StateM History (Except SessionError α)}
    {f : α → Reply} (hf : ∀ a, (f a).isFailure = false) (hx : Leads x fun _ new => Asking i new) :
    Leads (do pure (.of f (← x), s)) fun r new => Quiet r.1 new :=
  hx.bind fun a new asking => .pure ⟨isFailure_of hf a, by simpa using asking.quiet⟩

theorem leads_quiet_steps {α : Type} {x : StateM History (Except SessionError α × Session)}
    {f : α → Reply} (hf : ∀ a, (f a).isFailure = false)
    (hx : Leads x fun _ new => problems new = []) :
    Leads (do let (r, t) ← x; pure (.of f r, t)) fun r new => Quiet r.1 new :=
  hx.bind fun r new quiet => .pure ⟨isFailure_of hf r.1, by simpa using quiet⟩

theorem leads_activeKeyboard_quiet (live : s.installed = some i) :
    Leads (s.activeKeyboard o.environment) fun _ new => problems new = [] := by
  simp only [activeKeyboard, live]
  split
  · refine Leads.bind (P := fun _ new => problems new = []) (.ask fun _ => rfl) ?_
    intro answer new quiet
    split <;> exact .pure (by simpa using quiet)
  · exact .pure rfl

theorem leads_deactivate_quiet (live : s.installed = some i) :
    Leads (s.deactivate o.environment) fun _ new => problems new = [] := by
  simp only [deactivate, live]
  split
  · refine (leads_letting _ _).bind ?_
    rintro _ _ rfl
    exact .pure (by simp)
  · exact .pure rfl

theorem leads_register_quiet (live : s.installed = some i) (t : FocusTarget)
    (handler : Option Handler) :
    Leads (s.register o.environment t handler) fun _ new => problems new = [] := by
  simp only [register, live]
  refine (leads_deliver i _).bind ?_
  rintro _ _ rfl
  exact .pure (by simp)

theorem leads_unregister_quiet (live : s.installed = some i) (t : FocusTarget) :
    Leads (s.unregister o.environment t) fun _ new => problems new = [] := by
  simp only [unregister, live]
  split
  · refine (leads_deliver i _).bind ?_
    rintro _ _ rfl
    exact .pure (by simp)
  · exact .pure rfl

/-- Nobody forgets what the user was told: of every problem that was told the identifier is new. -/
theorem Steps.length_warned (h : Steps s new t) :
    t.warned.length = s.warned.length + (problems new).length := by
  induction h with
  | refl => rfl
  | tail before last ih =>
    rw [problems_append, List.length_append, ← Nat.add_assoc, ← ih]
    cases last with
    | warning => exact List.length_append
    | question | adoption | listen => rfl
    | failure | register | unregister => simp
    | switch =>
      simp
      rfl
    | release =>
      split
      · rfl
      · simp
        rfl

theorem leads_setupFacts_quiet (live : s.installed = some i) :
    Leads (s.setupFacts o.environment) fun r new => Quiet r new := by
  intro h
  obtain ⟨r, new, he, -, path⟩ := leads_setupFacts (o := o) live h
  refine ⟨r, new, he, ?_, ?_⟩
  · have hr : ((s.setupFacts o.environment).run h).1.isFailure = false := by
      simp only [setupFacts, StateT.run, bind, StateT.bind]
      split
      split
      split
      split <;> rfl
    simpa only [StateT.run, he] using hr
  · have hlength := path.length_warned
    exact List.eq_nil_of_length_eq_zero (by omega)

/-- The user hears of no problem when adaptors are replaced, asked anew or closed. -/
theorem Performed.quiet (h : Performed s c reply new t) (busy : c.isPlain = false) :
    problems new = [] := by
  cases h with
  | steps plain => simp [busy] at plain
  | refusal live installing => exact problems_of_journal installing.journal
  | replacement live installing =>
    simp [problems_of_journal installing.journal, problems_of_journal (journal_announcements _ _),
      problems_of_journal (journal_closings _)]
  | refresh => exact problems_of_journal (journal_enumerations _)
  | shutDown => exact problems_of_journal (journal_closings _)

/-- The user hears of nothing when a command activates nothing. -/
theorem leads_perform_quiet (live : s.installed = some i) (passive : c.activates = false) :
    Leads (s.perform o.environment c) fun r new => Quiet r.1 new := by
  cases c with
  | activate | activateId | activateKey | activateLanguage => cases passive
  | activateDefault | activateDescribed | activateFor => cases passive
  | resolve | lookup | chosenFor | ofLanguage =>
    exact leads_quiet_reply (isFailure_of (fun _ => rfl) _)
  | allKeyboards | availableKeyboards | legacyFor | size =>
    exact leads_quiet_reply (isFailure_of (fun _ => rfl) _)
  | adaptorNames | isRegistered | handlerOf | targetCount =>
    exact leads_quiet_reply (isFailure_of (fun _ => rfl) _)
  | settings | isDisposed => exact leads_quiet_reply rfl
  | listen l => exact leads_quiet_reply (isFailure_of (fun _ => rfl) _)
  | describe layout locale =>
    exact leads_quiet_asking (fun _ => rfl) (leads_describe live layout locale)
  | defaultKeyboard => exact leads_quiet_asking (fun _ => rfl) (leads_defaultKeyboard live)
  | defaultFor ws => exact leads_quiet_asking (fun _ => rfl) (leads_defaultFor live ws)
  | activeKeyboard => exact leads_quiet_steps (fun _ => rfl) (leads_activeKeyboard_quiet live)
  | deactivate => exact leads_quiet_steps (fun _ => rfl) (leads_deactivate_quiet live)
  | setup =>
    refine (leads_setupFacts_quiet live).bind fun r new h => .pure ⟨h.1, ?_⟩
    simpa using h.2
  | register t handler =>
    exact leads_quiet_steps (fun _ => rfl) (leads_register_quiet live t handler)
  | unregister t => exact leads_quiet_steps (fun _ => rfl) (leads_unregister_quiet live t)
  | replaceAdaptors offered =>
    refine (leads_replaceAdaptors live offered).bind fun r new h => .pure ⟨?_, ?_⟩
    · exact isFailure_of (fun _ => rfl) _
    · simpa using h.quiet rfl
  | refresh =>
    refine (leads_refresh live).bind fun r new h => .pure ⟨?_, ?_⟩
    · exact isFailure_of (fun _ => rfl) _
    · simpa using h.quiet rfl
  | shutDown =>
    refine (leads_shutDown live).bind ?_
    rintro _ _ ⟨rfl, rfl⟩
    refine .pure ⟨rfl, ?_⟩
    simpa using problems_of_journal (journal_closings i.adaptors)

theorem Performed.noted (h : Performed s c reply new t) (quiet : problems new = []) :
    Noted s [] new t := by
  cases h with
  | steps plain path => exact path.noted quiet
  | refusal | replacement | refresh | shutDown => exact .nil rfl rfl quiet

theorem sound_of_passive (live : s.installed = some i) (passive : c.activates = false)
    (h : History) : ∃ reply t new, (s.perform o.environment c).run h = ((reply, t), h ++ new) ∧
      Turn.Sound ⟨s, c, s.target? o h c, reply, new⟩ t := by
  obtain ⟨q, new, he, hfailure, hquiet⟩ := leads_perform_quiet (o := o) live passive h
  obtain ⟨new', hnew, hperf⟩ := (leads_perform live c).run he
  obtain rfl := List.append_cancel_left hnew
  have hnameless : Turn.nameless? ⟨s, c, s.target? o h c, q.1, new⟩ = none := by
    cases c <;> first | rfl | cases passive
  refine ⟨q.1, q.2, new, he, ?_, fun hf => ?_⟩
  · simpa [Turn.problem?, hfailure, hnameless] using hperf.noted hquiet
  · simp [hfailure] at hf

/-- A command that looks a keyboard up and activates what it finds. -/
theorem sound_of_lookup {x : StateM History (Except SessionError Keyboard)}
    (live : s.installed = some i) (hx : Leads x fun _ new => Asking i new) (h : History)
    (program : s.perform o.environment c =
      (x >>= s.activateFound o.environment) >>= fun r => pure (.of .activation r.1, r.2))
    (target : s.target? o h c = (x.run h).1.toOption)
    (named : ∀ reply new, Turn.nameless? ⟨s, c, s.target? o h c, reply, new⟩ = none) :
    ∃ reply t new, (s.perform o.environment c).run h = ((reply, t), h ++ new) ∧
      Turn.Sound ⟨s, c, s.target? o h c, reply, new⟩ t := by
  obtain ⟨found, pre, hfound, asking⟩ := hx h
  obtain ⟨r, more, hr, accounted⟩ :=
    leads_activateFound_accounted (o := o) live found (h ++ pre)
  have hrun : (s.perform o.environment c).run h =
      ((.of .activation r.1, r.2), h ++ (pre ++ more)) := by
    have hb : ((x >>= s.activateFound o.environment) >>= fun r =>
        (pure (Reply.of .activation r.1, r.2) : StateM History (Reply × Session))).run h =
        let q := s.activateFound o.environment (x h).1 (x h).2
        ((.of .activation q.1.1, q.1.2), q.2) := rfl
    rw [program, hb, hfound, hr, List.append_assoc]
  refine ⟨_, _, _, hrun, ?_⟩
  refine Accounted.sound live (named _ _) ?_
  have ht : s.target? o h c = found.toOption := by rw [target, StateT.run, hfound]
  rw [ht]
  exact asking.accounted accounted

theorem sound_of_activateFor (live : s.installed = some i) (ws : WritingSystem) (h : History) :
    ∃ reply t new, (s.perform o.environment (.activateFor ws)).run h = ((reply, t), h ++ new) ∧
      Turn.Sound ⟨s, .activateFor ws, s.target? o h (.activateFor ws), reply, new⟩ t := by
  have hreply : ∀ r ws,
      (Reply.activationFor r ws).isFailure = (Reply.of .activation r).isFailure := by
    intro r ws
    cases r with
    | error e => rfl
    | ok a => cases a <;> rfl
  suffices hl : Leads (s.perform o.environment (.activateFor ws)) fun q new =>
      Accounted s i ((s.adopt ws).toOption.map (·.chosen)) q.1.isFailure new q.2 by
    obtain ⟨q, new, he, accounted⟩ := hl h
    exact ⟨q.1, q.2, new, he, accounted.sound live rfl⟩
  simp only [perform, activateFor]
  cases s.adopt ws with
  | error e => exact .pure (.of_success (.nil rfl rfl rfl))
  | ok ws =>
    refine Leads.bind (P := fun q new =>
      Accounted s i (some ws.chosen) (Reply.of .activation q.1.1).isFailure new q.2) ?_ ?_
    · refine (leads_activate_accounted live ws.chosen).bind fun r new accounted => .pure ?_
      simpa using accounted
    · intro q new accounted
      refine .pure ?_
      change Accounted s i (some ws.chosen) _ _ _
      rw [hreply]
      simpa using accounted

theorem sound_of_activateId (live : s.installed = some i) (id : String) (h : History) :
    ∃ reply t new, (s.perform o.environment (.activateId id)).run h = ((reply, t), h ++ new) ∧
      Turn.Sound ⟨s, .activateId id, s.target? o h (.activateId id), reply, new⟩ t := by
  have hresolve : s.resolve id = .ok (i.catalog.resolve id) := by
    simp [resolve, catalog, get, live, Except.map]
  have htarget : s.target? o h (.activateId id) = some (i.catalog.resolve id) := by
    simp [target?, hresolve, Except.toOption]
  rw [htarget]
  generalize i.catalog.resolve id = k at *
  suffices hl : Leads (s.perform o.environment (.activateId id)) fun q new =>
      Turn.Sound ⟨s, .activateId id, some k, q.1, new⟩ q.2 by
    obtain ⟨q, new, he, sound⟩ := hl h
    exact ⟨q.1, q.2, new, he, sound⟩
  simp only [perform, activateId, hresolve]
  by_cases hz : k.isZero = true
  · simp only [hz, if_true]
    refine Leads.bind (P := fun q new => q.1 = .ok .noKeyboard ∧
      Noted s [.unresolved id] new q.2) ?_ ?_
    · exact (leads_warning s _ _ _).mono fun _ _ h =>
        ⟨h.1, Warned.noted (p := .unresolved id) h.2⟩
    · rintro ⟨r, t⟩ new ⟨rfl, noted⟩
      refine .pure ⟨?_, fun hf => ?_⟩
      · simpa [Turn.problem?, Turn.nameless?, hz, Reply.of, Reply.isFailure] using noted
      · cases hf
  · simp only [hz]
    refine (leads_activate_accounted live k).bind fun r new accounted => .pure ?_
    refine Accounted.sound live ?_ (by simpa using accounted)
    simp [Turn.nameless?, hz]

theorem leads_pure_asking {α : Type} (i : Installed) (a : α) :
    Leads (pure a : StateM History α) fun _ new => Asking i new := .pure (.inl rfl)

theorem perform_sound (live : s.installed = some i) (c : Command) (h : History) :
    ∃ reply t new, (s.perform o.environment c).run h = ((reply, t), h ++ new) ∧
      Turn.Sound ⟨s, c, s.target? o h c, reply, new⟩ t := by
  by_cases passive : c.activates = false
  · exact sound_of_passive live passive h
  cases c with
  | activate k =>
    exact sound_of_lookup live (leads_pure_asking i (.ok k)) h rfl rfl fun _ _ => rfl
  | activateKey layout locale =>
    exact sound_of_lookup live (leads_pure_asking i (s.lookup layout locale)) h rfl rfl
      fun _ _ => rfl
  | activateLanguage language =>
    exact sound_of_lookup live (leads_pure_asking i (s.ofLanguage language)) h rfl rfl
      fun _ _ => rfl
  | activateDefault =>
    exact sound_of_lookup live (leads_defaultKeyboard live) h rfl rfl fun _ _ => rfl
  | activateDescribed layout locale =>
    exact sound_of_lookup live (leads_describe live layout locale) h rfl rfl fun _ _ => rfl
  | activateFor ws => exact sound_of_activateFor live ws h
  | activateId id => exact sound_of_activateId live id h
  | _ => exact absurd rfl passive

theorem perform_disposed_sound (gone : s.installed = none) (c : Command) (h : History) :
    ∃ reply, (s.perform o.environment c).run h = ((reply, s), h ++ []) ∧
      Turn.Sound ⟨s, c, s.target? o h c, reply, []⟩ s := by
  obtain ⟨settings, installed, warned, targets, listeners⟩ := s
  cases gone
  rw [List.append_nil]
  have hquiet : ∀ reply : Reply, reply.isFailure = false →
      Turn.nameless? ⟨⟨settings, none, warned, targets, listeners⟩, c,
        target? ⟨settings, none, warned, targets, listeners⟩ o h c, reply, []⟩ = none →
      Turn.Sound ⟨⟨settings, none, warned, targets, listeners⟩, c,
        target? ⟨settings, none, warned, targets, listeners⟩ o h c, reply, []⟩
        ⟨settings, none, warned, targets, listeners⟩ := by
    intro reply hr hn
    refine ⟨?_, fun hf => ?_⟩
    · simpa [Turn.problem?, hr, hn] using Noted.nil rfl rfl rfl
    · simp [hr] at hf
  cases c <;> exact ⟨_, rfl, hquiet _ rfl rfl⟩

/-- Whatever a session does, the user hears of it as it should be. -/
theorem turn_sound (s : Session) (o : Oracle) (c : Command) (h : History) :
    ∃ reply t new, (s.perform o.environment c).run h = ((reply, t), h ++ new) ∧
      Turn.Sound ⟨s, c, s.target? o h c, reply, new⟩ t := by
  cases live : s.installed with
  | some i => exact perform_sound live c h
  | none =>
    obtain ⟨reply, he, sound⟩ := perform_disposed_sound (o := o) live c h
    exact ⟨reply, s, [], he, sound⟩

/-- What became of a command. -/
def turn (s : Session) (o : Oracle) (h : History) (c : Command) : Turn :=
  let q := (s.perform o.environment c).run h
  ⟨s, c, s.target? o h c, q.1.1, q.2.drop h.length⟩

/-- What became of each of the commands of a run. -/
def turns (s : Session) (o : Oracle) (h : History) : List Command → List Turn
  | [] => []
  | c :: cs =>
    let q := (s.perform o.environment c).run h
    s.turn o h c :: q.1.2.turns o q.2 cs

theorem turns_cons {cs : List Command}
    (carried : (s.perform o.environment c).run h = ((reply, t), h ++ new)) :
    s.turns o h (c :: cs) = ⟨s, c, s.target? o h c, reply, new⟩ :: t.turns o (h ++ new) cs := by
  simp [turns, turn, carried]

/-- The turns of a run tell all of it, and in each of them the user hears what is to be heard. -/
theorem run_turns (s : Session) (o : Oracle) (h : History) (cs : List Command) :
    ∃ t, (s.run o.environment cs).run h = (((s.turns o h cs).map (·.reply), t),
        h ++ (s.turns o h cs).flatMap (·.events)) ∧
      Noted s ((s.turns o h cs).filterMap (·.problem?))
        ((s.turns o h cs).flatMap (·.events)) t ∧
      ∀ u ∈ s.turns o h cs, ∃ t, u.Sound t := by
  induction cs generalizing s h with
  | nil =>
    refine ⟨s, ?_, .nil rfl rfl rfl, by simp [turns]⟩
    simp [turns, run]
    rfl
  | cons c cs ih =>
    obtain ⟨reply, t, new, he, sound⟩ := turn_sound s o c h
    obtain ⟨v, hv, noted, sounds⟩ := ih t (h ++ new)
    have hrun : (s.run o.environment (c :: cs)).run h =
        let p := (s.perform o.environment c).run h
        let q := (p.1.2.run o.environment cs).run p.2
        ((p.1.1 :: q.1.1, q.1.2), q.2) := rfl
    rw [turns_cons he]
    refine ⟨v, ?_, ?_, ?_⟩
    · rw [hrun, he]
      simp only [hv, List.map_cons, List.flatMap_cons, List.append_assoc]
    · rw [List.filterMap_eq_flatMap_toList, List.flatMap_cons, List.flatMap_cons,
        ← List.filterMap_eq_flatMap_toList]
      exact sound.noted.append noted
    · intro u hu
      rcases List.mem_cons.1 hu with rfl | hu
      · exact ⟨t, sound⟩
      · exact sounds u hu

theorem commands_turns (s : Session) (o : Oracle) (h : History) (cs : List Command) :
    (s.turns o h cs).map (·.command) = cs := by
  induction cs generalizing s h with
  | nil => rfl
  | cons c cs ih => simp [turns, turn, ih]

theorem start_noted {settings : SessionSettings} {offered : List Adaptor}
    (opened : (start o.environment settings offered).run [] = (.ok s, h)) :
    s.settings = settings ∧ s.warned = [] ∧ problems h = [] := by
  obtain ⟨new, rfl, ho⟩ := (leads_start settings offered).run opened
  cases ho with
  | opened installing =>
    refine ⟨rfl, rfl, ?_⟩
    simp [problems_of_journal installing.journal]

/-- The turns of a run are what was carried out, answered and done in it. -/
theorem turns_of_run {cs : List Command} {replies : List Reply}
    (ran : (s.run o.environment cs).run g = ((replies, t), h)) :
    (s.turns o g cs).map (·.command) = cs ∧ (s.turns o g cs).map (·.reply) = replies ∧
      h = g ++ (s.turns o g cs).flatMap (·.events) := by
  obtain ⟨v, hv, -, -⟩ := run_turns s o g cs
  rw [ran, Prod.mk.injEq, Prod.mk.injEq] at hv
  exact ⟨commands_turns s o g cs, hv.1.1.symm, hv.2⟩

theorem noted_of_run {cs : List Command} {replies : List Reply}
    (ran : (s.run o.environment cs).run g = ((replies, t), h)) :
    Noted s ((s.turns o g cs).filterMap (·.problem?)) ((s.turns o g cs).flatMap (·.events)) t ∧
      ∀ u ∈ s.turns o g cs, ∃ t, u.Sound t := by
  obtain ⟨v, hv, noted, sounds⟩ := run_turns s o g cs
  rw [ran, Prod.mk.injEq, Prod.mk.injEq] at hv
  exact ⟨hv.1.2 ▸ noted, sounds⟩

/-- A keyboard that cannot be used fails. The user hears of it unless the identifier is known. -/
theorem run_activate_missing (live : s.installed = some i) (nonzero : k.isZero = false)
    (missing : usable? i k = none) (notify : s.settings.notifyUnresolved = true) (h : History) :
    (s.perform o.environment (.activate k)).run h =
      if k.legacyId ∈ s.warned then ((.activation .failed, s), h)
      else ((.activation .failed, { s with warned := s.warned ++ [k.legacyId] }),
        h ++ [.reported (.problem (Failure.notInstalled k).message)]) := by
  simp only [perform, activate, live, nonzero, missing, warnOnce, notify, Bool.not_true,
    Bool.false_or, List.contains_eq_mem, decide_eq_true_eq, Bool.false_eq_true, if_false]
  by_cases hw : k.legacyId ∈ s.warned
  · simp only [hw, if_true]
    rfl
  · simp only [hw, if_false]
    rfl

/-- The user hears of every problem once: of each identifier the message of the first one, in
order, or of nothing at all. Every failure to activate a keyboard is such a problem, and commands
that meet none are quiet. An adaptor that was found before another one let go is found again, so no
activation fails for want of one then, of which the user would not hear. -/
theorem problems_told_once {settings : SessionSettings} {offered : List Adaptor}
    {cs : List Command} {replies : List Reply}
    (opened : (start o.environment settings offered).run [] = (.ok s, g))
    (ran : (s.run o.environment cs).run g = ((replies, t), h)) :
    (problems h = if settings.notifyUnresolved = true then
        (Problem.firsts ((s.turns o g cs).filterMap (·.problem?))).map (·.message) else []) ∧
      (∀ u ∈ s.turns o g cs, u.reply.isFailure = true →
        ∃ k f, u.target? = some k ∧ u.problem? = some (.ofFailure k f)) ∧
      (∀ u ∈ s.turns o g cs, u.problem? = none → problems u.events = []) ∧
      (∀ (i : Installed) (c : Category) (r : Keyboard) (before : History),
        (i.serving c).isSome = true → ((handOver o.environment i c r).run before).1 ≠ none) ∧
      (s.turns o g cs).map (·.command) = cs ∧ (s.turns o g cs).map (·.reply) = replies ∧
      h = g ++ (s.turns o g cs).flatMap (·.events) := by
  obtain ⟨hsettings, hwarned, hquiet⟩ := start_noted opened
  obtain ⟨noted, sounds⟩ := noted_of_run ran
  refine ⟨?_, ?_, ?_, ?_, turns_of_run ran⟩
  · rw [(turns_of_run ran).2.2, problems_append, hquiet, List.nil_append, noted.told, untold,
      hsettings, hwarned]
    by_cases hn : settings.notifyUnresolved = true <;> simp [hn]
  · intro u hu hf
    obtain ⟨t, sound⟩ := sounds u hu
    exact sound.reason hf
  · intro u hu hp
    obtain ⟨t, sound⟩ := sounds u hu
    rw [sound.noted.told, hp]
    rfl
  · intro i c r before hserved
    obtain ⟨a, serves⟩ := Option.isSome_iff_exists.1 hserved
    rw [run_handOver serves]
    exact Option.some_ne_none _

namespace Sample

/-- Two keyboards of one identifier. -/
def serbianLatin : Keyboard :=
  ⟨"sr-Latn", "RS", "Serbian (Latin)", some .primary, true, some "system", none⟩

def serbian : Keyboard := ⟨"sr", "Latn-RS", "Serbian", some .primary, true, some "system", none⟩

/-- No adaptor offers a keyboard under these names. -/
abbrev Absent (layout locale : String) : Prop :=
  ∀ l ∈ Catalog.firstOfEach ([us] ++ [pinyin]), l.canonicalKey ≠ Catalog.keyOf layout locale

/-- A session on what both adaptors offer, once the user was told of some identifiers. -/
def told (ids : List String) : Session := { fresh {} (both [us] .zero) with warned := ids }

/-- A turn in which a keyboard was asked for that no adaptor offers. -/
def failing (ids : List String) (k : Keyboard) (new : History) : Turn :=
  ⟨told ids, .activate k, some k, .activation .failed, new⟩

/-- The event in which the user hears that a keyboard is not installed. -/
def absence (k : Keyboard) : Event := .reported (.problem (Failure.notInstalled k).message)

theorem opened_told : ∃ g,
    (start (host [us]).environment {} [system, methods]).run [] = (.ok (told []), g) := by
  obtain ⟨g, reached⟩ := reached_opening [us]
  exact ⟨g, reached_nil.1 reached⟩

theorem get?_absent {layout locale : String} (absent : Absent layout locale) :
    (both [us] .zero).catalog.get? layout locale = none := by
  refine Catalog.get?_eq_none (c := .ofList ([us] ++ [pinyin])) (Catalog.indexed_ofList _) ?_
  rw [Catalog.toList_ofList]
  exact absent

theorem usable?_absent (absent : Absent k.layout k.locale) :
    usable? (both [us] .zero) k = none := by
  rw [usable?, get?_absent absent]
  rfl

theorem run_absent (ids : List String) (nonzero : k.isZero = false)
    (absent : Absent k.layout k.locale) (h : History) :
    ((told ids).perform (host [us]).environment (.activate k)).run h =
      if k.legacyId ∈ ids then ((.activation .failed, told ids), h)
      else ((.activation .failed, told (ids ++ [k.legacyId])), h ++ [absence k]) :=
  run_activate_missing (s := told ids) rfl nonzero (usable?_absent absent) rfl h

theorem turns_fresh {ids : List String} {cs : List Command} (fresh : k.legacyId ∉ ids)
    (nonzero : k.isZero = false) (absent : Absent k.layout k.locale) (h : History) :
    (told ids).turns (host [us]) h (.activate k :: cs) = failing ids k [absence k] ::
      (told (ids ++ [k.legacyId])).turns (host [us]) (h ++ [absence k]) cs := by
  have hr := run_absent ids nonzero absent h
  rw [if_neg fresh] at hr
  exact turns_cons hr

theorem turns_known {ids : List String} {cs : List Command} (known : k.legacyId ∈ ids)
    (nonzero : k.isZero = false) (absent : Absent k.layout k.locale) (h : History) :
    (told ids).turns (host [us]) h (.activate k :: cs) =
      failing ids k [] :: (told ids).turns (host [us]) h cs := by
  have hr := run_absent ids nonzero absent h
  rw [if_pos known] at hr
  have hturn : (told ids).turns (host [us]) h (.activate k :: cs) =
      failing ids k [] :: (told ids).turns (host [us]) (h ++ []) cs :=
    turns_cons (by rw [List.append_nil]; exact hr)
  rwa [List.append_nil] at hturn

/-- The turn in which the adaptors are asked anew and offer what they offered before. -/
theorem turns_refresh (ids : List String) (cs : List Command) (h : History) :
    ∃ u : Turn, u.problem? = none ∧ ∃ new, (told ids).turns (host [us]) h (.refresh :: cs) =
      u :: (told ids).turns (host [us]) (h ++ new) cs := by
  have hsame : (told ids).refreshed (both [us] .zero) (.ofList ([us] ++ [pinyin])) = told ids := by
    have hnone : (Catalog.ofList ([us] ++ [pinyin])).get? "" "" = none :=
      get?_absent (by decide +kernel)
    simp only [refreshed, both, Keyboard.zero, hnone]
    rfl
  have hr := run_refresh [us] (told ids) [us] .zero h
  rw [layouts, ite_self, List.append_assoc, hsame] at hr
  exact ⟨_, rfl, _, turns_cons hr⟩

theorem problem?_failing {ids : List String} (absent : Absent k.layout k.locale) (new : History) :
    (failing ids k new).problem? = some (.ofFailure k (.notInstalled k)) := by
  have hfailure : failure? (both [us] .zero) k new = some (.notInstalled k) := by
    rw [failure?, usable?_absent absent]
  change (failure? (both [us] .zero) k new).map (Problem.ofFailure k) = _
  rw [hfailure]
  rfl

theorem absent_serbianLatin : Absent serbianLatin.layout serbianLatin.locale := by
  decide +kernel

end Sample

/-- A keyboard that nobody offers is asked for again after the adaptors were asked anew. -/
theorem problems_told_once_refreshed : ∃ (s t : Session) (g h : History) (replies : List Reply),
    (start (Sample.host [Sample.us]).environment {} [Sample.system, Sample.methods]).run [] =
      (.ok s, g) ∧
    (s.run (Sample.host [Sample.us]).environment
      [.activate Sample.serbianLatin, .refresh, .activate Sample.serbianLatin]).run g =
        ((replies, t), h) ∧
    problems h = ["The keyboard 'Serbian (Latin)' is not installed on this computer."] := by
  obtain ⟨g, opened⟩ := Sample.opened_told
  obtain ⟨t, ran, -, -⟩ := run_turns (Sample.told []) (Sample.host [Sample.us]) g
    [.activate Sample.serbianLatin, .refresh, .activate Sample.serbianLatin]
  obtain ⟨u, hu, new, hturns⟩ := Sample.turns_refresh [Sample.serbianLatin.legacyId]
    [.activate Sample.serbianLatin] (g ++ [Sample.absence Sample.serbianLatin])
  refine ⟨_, t, g, _, _, opened, ran, ?_⟩
  rw [(problems_told_once opened ran).1, Sample.turns_fresh (by decide) rfl
    Sample.absent_serbianLatin, List.nil_append, hturns, Sample.turns_known (by decide) rfl
    Sample.absent_serbianLatin]
  simp only [List.filterMap_cons, Sample.problem?_failing Sample.absent_serbianLatin, hu, turns]
  rfl

end Session

end Keyboards
