import Keyboards.Proofs.Session.Calls

/-! Adaptors that still have a keyboard on, and what switching categories does about them. -/

namespace Keyboards

/-- Whether an adaptor has a keyboard on after a call, by whether it had one before. -/
def Call.switches (on : Bool) : Call → Bool
  | ⟨.activate _, .ok _⟩ => true
  | ⟨.deactivate _, _⟩ => false
  | _ => on

namespace History

variable {a b : Adaptor} {h g : History} {on : Bool} {k : Keyboard}

/-- Whether an adaptor has a keyboard on after some events, by whether it had one before. -/
def switched (on : Bool) (a : Adaptor) (h : History) : Bool :=
  (calls a h).foldl Call.switches on

/-- Whether the last successful activation of an adaptor came after it was last told to let go. -/
def outstanding (a : Adaptor) (h : History) : Bool := switched false a h

theorem switched_append : switched on a (g ++ h) = switched (switched on a g) a h := by
  rw [switched, calls_append, List.foldl_append]
  rfl

theorem outstanding_append : outstanding a (g ++ h) = switched (outstanding a g) a h :=
  switched_append

theorem switches_of_not_isSwitch {c : Call} (hc : c.1.isSwitch = false) : c.switches on = on := by
  obtain ⟨r, answer⟩ := c
  cases r <;> first | rfl | cases hc

theorem foldl_switches {cs : List Call} (hc : ∀ c ∈ cs, c.1.isSwitch = false) :
    cs.foldl Call.switches on = on := by
  induction cs with
  | nil => rfl
  | cons c cs ih =>
    rw [List.foldl_cons, switches_of_not_isSwitch (hc c List.mem_cons_self)]
    exact ih fun d hd => hc d (List.mem_cons_of_mem _ hd)

/-- Other requests do not matter. -/
theorem switched_of_asks (quiet : Asks (fun _ r => r.isSwitch = false) h) :
    switched on a h = on :=
  foldl_switches fun _ hc => quiet.of_mem_calls hc

theorem switched_of_calls_eq_nil (h : calls a g = []) : switched on a g = on := by
  rw [switched, h]
  rfl

theorem switched_letting {x : Option Adaptor} :
    switched on a (letting x k) = if x = some a then false else on := by
  cases x with
  | none => rfl
  | some b =>
    by_cases hb : b = a
    · subst hb
      simp [letting, switched, Call.switches]
    · simp [letting, switched, calls_asked_other hb, hb]

theorem switched_activate (answer : Except AdaptorError Unit) :
    switched on a [.asked b (.activate k) answer] =
      if b = a ∧ answer = .ok () then true else on := by
  by_cases hb : b = a
  · subst hb
    cases answer <;> simp [switched, Call.switches]
  · simp [switched, calls_asked_other hb, hb]

theorem switched_restoring {x : Option Adaptor} (answer : Except AdaptorError Unit) :
    switched on a (restoring x k answer) = if x = some a ∧ answer = .ok () then true else on := by
  cases x with
  | none => rfl
  | some b => simpa [restoring] using switched_activate (a := a) (b := b) (k := k) answer

end History

namespace Session

open History

variable {o : Oracle} {settings : SessionSettings} {offered : List Adaptor} {cs : List Command}
  {s t : Session} {i j : Installed} {g h new : History} {a : Adaptor} {c : Command} {reply : Reply}

/-- The keyboard in use belongs to the category of an adaptor. -/
def Tracks (i : Installed) (a : Adaptor) : Prop :=
  i.active.isZero = false ∧ i.active.category = some a.category

/-- No adaptor of another category than that of the keyboard in use has a keyboard on. -/
def Exclusive (i : Installed) (h : History) : Prop :=
  ∀ a ∈ i.adaptors, i.active.category ≠ some a.category → outstanding a h = false

/-- An adaptor that has a keyboard on is the one whose keyboard is in use. -/
def InStep (i : Installed) (a : Adaptor) (h : History) : Prop :=
  outstanding a h = true → Tracks i a

/-- The adaptor to leave is the one whose keyboard is in use. -/
theorem leaving?_iff_tracks {category : Category} (hs : i.Sound) (ha : a ∈ i.adaptors)
    (other : a.category ≠ category) : leaving? i category = some a ↔ Tracks i a := by
  rw [leaving?_eq_some]
  constructor
  · rintro ⟨hz, -, hb⟩
    obtain ⟨d, hd, hserves⟩ := Option.bind_eq_some_iff.1 hb
    rw [← hs.category_of_serving hserves] at hd
    exact ⟨hz, hd⟩
  · rintro ⟨hz, hd⟩
    refine ⟨hz, ?_, ?_⟩
    · rw [hd]
      simpa using other
    · rw [hd]
      exact hs.serving_of_mem ha

/-- A switch to another category reaches an adaptor exactly if its keyboard was in use. -/
theorem switched_of_switch {b : Adaptor} {k : Keyboard} {category : Category} {on : Bool}
    (hs : i.Sound) (ha : a ∈ i.adaptors) (serves : i.serving category = some b)
    (other : a.category ≠ category) :
    switched on a (letting (leaving? i category) i.active ++ [.asked b (.activate k) (.ok ())]) =
      true ↔ on = true ∧ ¬ Tracks i a := by
  have hba : b ≠ a := by
    rintro rfl
    exact other (hs.category_of_serving serves)
  rw [switched_append, switched_activate, switched_letting, if_neg (fun h => hba h.1),
    ← leaving?_iff_tracks hs ha other]
  by_cases hl : leaving? i category = some a <;> simp [hl]

/-- Steps keep in step what is. -/
theorem Step.inStep (h : Step s new t) (live : s.installed = some i) (hs : i.Sound)
    (ha : a ∈ i.adaptors) (before : InStep i a g) (after : t.installed = some j) :
    InStep j a (g ++ new) := by
  intro hon
  rw [outstanding_append] at hon
  cases h with
  | question live' mem asks answer =>
    cases live.symm.trans after
    rw [switched_of_asks (asks_singleton (Request.isSwitch_of_isQuestion asks))] at hon
    exact before hon
  | warning | listen =>
    cases live.symm.trans after
    exact before hon
  | adoption live' idle =>
    -- Nobody had a keyboard on, since none was in use.
    cases live.symm.trans live'
    rw [switched_of_asks (asks_singleton rfl)] at hon
    rw [(before hon).1] at idle
    cases idle
  | switch live' usable serves =>
    cases live.symm.trans live'
    cases after
    rename_i k r category b
    obtain ⟨found, -, hcategory⟩ := usable?_eq_some.1 usable
    by_cases same : a.category = category
    · subst same
      exact ⟨Catalog.isZero_of_get? hs.indexed found, hcategory⟩
    · obtain ⟨hbefore, hleft⟩ := (switched_of_switch hs ha serves same).1 hon
      exact (hleft (before hbefore)).elim
  | failure live' usable serves e back =>
    cases live.symm.trans live'
    cases live.symm.trans after
    rename_i k r category b
    rw [switched_append, switched_append, switched_activate, switched_restoring,
      switched_letting] at hon
    by_cases hl : leaving? i category = some a
    · obtain ⟨hz, -, hb⟩ := leaving?_eq_some.1 hl
      obtain ⟨d, hd, hserves⟩ := Option.bind_eq_some_iff.1 hb
      rw [← hs.category_of_serving hserves] at hd
      exact ⟨hz, hd⟩
    · simp only [hl, reduceCtorEq, false_and, and_false, if_false] at hon
      exact before hon
  | release live' =>
    cases live.symm.trans live'
    cases after
    split at hon
    · rename_i hz
      rw [(before hon).1] at hz
      cases hz
    · rw [switched_letting] at hon
      split at hon
      · cases hon
      · rename_i hne
        rw [(before hon).2] at hne
        exact (hne (hs.serving_of_mem ha)).elim
  | register live' =>
    cases live.symm.trans live'
    cases live.symm.trans after
    rw [switched_of_asks (asks_news fun _ _ => rfl)] at hon
    exact before hon
  | unregister live' =>
    cases live.symm.trans live'
    cases live.symm.trans after
    rw [switched_of_asks (asks_news fun _ _ => rfl)] at hon
    exact before hon

theorem Steps.inStep (h : Steps s new t) (live : s.installed = some i) (hs : i.Sound)
    (ha : a ∈ i.adaptors) (before : InStep i a g) (after : t.installed = some j) :
    InStep j a (g ++ new) := by
  induction h generalizing j with
  | refl =>
    cases live.symm.trans after
    rw [List.append_nil]
    exact before
  | tail path last ih =>
    obtain ⟨k, hk, within⟩ := path.frame live
    have hmid := ih hk
    rw [← List.append_assoc]
    exact last.inStep hk (within.sound hs) ha hmid after

/-- At some refresh an adaptor had a keyboard on that was in use, and afterwards it was not in use,
without a word to the adaptor. -/
def Stranded (o : Oracle) (settings : SessionSettings) (offered : List Adaptor)
    (cs : List Command) (a : Adaptor) : Prop :=
  ∃ (before after : List Command) (s t : Session) (g h : History) (i j : Installed),
    cs = before ++ .refresh :: after ∧
    Reached o settings offered before s g ∧ s.installed = some i ∧
    Reached o settings offered (before ++ [.refresh]) t h ∧ t.installed = some j ∧
    a ∈ i.adaptors ∧ outstanding a g = true ∧ Tracks i a ∧ ¬ Tracks j a

theorem Stranded.snoc (h : Stranded o settings offered cs a) (c : Command) :
    Stranded o settings offered (cs ++ [c]) a := by
  obtain ⟨before, after, s, t, g, h, i, j, rfl, rest⟩ := h
  exact ⟨before, after ++ [c], s, t, g, h, i, j, by simp, rest⟩

/-- No command but a refresh gets an adaptor out of step. -/
theorem Performed.inStep (h : Performed s c reply new t) (live : s.installed = some i)
    (hs : i.Sound) (unknown : ∀ a ∈ c.offers, calls a g = []) (other : c ≠ .refresh)
    (after : t.installed = some j) (ha : a ∈ j.adaptors)
    (before : a ∈ i.adaptors → InStep i a g) : InStep j a (g ++ new) := by
  cases h with
  | steps plain path =>
    obtain ⟨k, hk, -⟩ := path.frame live
    have hi : a ∈ i.adaptors := by
      cases after.symm.trans hk
      exact ha
    exact path.inStep live hs hi (before hi) after
  | refusal live' installing =>
    cases live.symm.trans after
    intro hon
    rw [outstanding_append, switched_of_asks installing.asks_no_switch] at hon
    exact before ha hon
  | replacement live' installing =>
    cases after
    have hold : outstanding a g = false :=
      switched_of_calls_eq_nil (unknown a (installing.mem_of_mem_adaptors ha))
    intro hon
    rw [outstanding_append, hold, switched_of_asks] at hon
    · cases hon
    · exact asks_append.2 ⟨installing.asks_no_switch,
        asks_append.2 ⟨asks_announcements fun _ _ _ => rfl,
          asks_append.2 ⟨asks_closings fun _ _ => rfl, asks_introduction _⟩⟩⟩
  | refresh => exact (other rfl).elim
  | shutDown => cases after

theorem stranded_of_not_tracked (owned : (supplied offered cs).Nodup)
    (reached : Reached o settings offered cs s h) (live : s.installed = some i)
    (ha : a ∈ i.adaptors) (hon : outstanding a h = true) (lost : ¬ Tracks i a) :
    Stranded o settings offered cs a := by
  refine Reached.induct (P := fun cs s h => (supplied offered cs).Nodup → ∀ i,
    s.installed = some i → a ∈ i.adaptors → outstanding a h = true → ¬ Tracks i a →
    Stranded o settings offered cs a) ?_ ?_ ?_ reached owned i live ha hon lost
  · rintro i new _ installing - _ ⟨⟩ ha hon
    have hnew : Asks (fun _ r => r.isSwitch = false) (new ++ introduction i) :=
      asks_append.2 ⟨installing.asks_no_switch, asks_introduction i⟩
    rw [outstanding, switched_of_asks hnew] at hon
    cases hon
  · intro cs s h i c reply new t before ih live carried hperf owned j after ha hon lost
    have hs := reached_sound before live
    have hsub : (supplied offered cs).Nodup := by
      rw [supplied_snoc] at owned
      exact owned.of_append_left
    have hprev : ∀ a ∈ c.offers, calls a h = [] := fun _ => calls_of_offered owned before
    by_cases hc : c = .refresh
    · subst hc
      cases hperf with
      | steps plain => cases plain
      | refresh live' listed =>
        cases live.symm.trans live'
        have hi : a ∈ i.adaptors := by
          cases after
          exact ha
        rw [outstanding_append, switched_of_asks (asks_enumerations fun _ _ => rfl)] at hon
        by_cases htracked : Tracks i a
        · exact ⟨cs, [], s, _, h, _, i, j, rfl, before, live, reached_snoc.2
            ⟨s, h, _, before, carried⟩, after, hi, hon, htracked, lost⟩
        · exact (ih hsub i live hi hon htracked).snoc _
    · by_cases hin : a ∈ i.adaptors → InStep i a h
      · exact (lost (hperf.inStep live hs hprev hc after ha hin hon)).elim
      · simp only [InStep, Classical.not_imp] at hin
        obtain ⟨hi, hbefore, hlost⟩ := hin
        exact (ih hsub i live hi hbefore hlost).snoc c
  · intro cs s h c reply _ _ gone _ _ i live
    cases gone.symm.trans live

/-- What an activation leaves on in the other category: what was on and not in use. -/
theorem Switched.outstanding_iff (h : Switched s new t) (live : s.installed = some i)
    (hs : i.Sound) : ∃ (j : Installed) (category : Category), t.installed = some j ∧
      j.adaptors = i.adaptors ∧ j.active.category = some category ∧
      ∀ a ∈ i.adaptors, a.category ≠ category →
        (outstanding a (g ++ new) = true ↔ outstanding a g = true ∧ ¬ Tracks i a) := by
  obtain ⟨i', k, r, category, b, asked, live', usable, serves, quiet, rfl, rfl⟩ := h
  cases live.symm.trans live'
  have hquiet : Asks (fun _ r => r.isSwitch = false) asked := by
    intro a r answer he
    obtain ⟨_, _, _, asks, he⟩ := quiet _ he
    cases he
    exact Request.isSwitch_of_isQuestion asks
  refine ⟨_, category, rfl, rfl, (usable?_eq_some.1 usable).2.2, ?_⟩
  intro a ha other
  rw [outstanding_append, switched_append, switched_of_asks hquiet]
  exact switched_of_switch hs ha serves other

theorem Performed.switched (h : Performed s c reply new t) (activated : reply.isActivated = true) :
    Switched s new t := by
  cases h with
  | steps plain path switched => exact switched activated
  | refusal | replacement | refresh | shutDown => cases activated

namespace Sample

theorem run_pinyin (later ks : List Keyboard) (k : Keyboard) (h : History)
    (offers : pinyin ∈ Catalog.firstOfEach (ks ++ [pinyin])) :
    ((fresh {} (both ks k)).perform (host later).environment (.activate pinyin)).run h =
      ((.activation .activated, fresh {} (both ks pinyin)),
        h ++ letting (leaving? (both ks k) .secondary) k ++
          [.asked methods (.activate pinyin) (.ok ())]) := by
  refine run_activate (o := host later) (i := both ks k) (a := methods) rfl
    (usable?_eq_some.2 ⟨?_, rfl, rfl⟩) rfl rfl rfl
  refine Catalog.get?_of_mem (Catalog.indexed_ofList _) ?_
  rw [both, Catalog.toList_ofList]
  exact offers

theorem refreshed_dropped : (fresh {} (both [us] us)).refreshed (both [us] us)
    (.ofList ([] ++ [pinyin])) = fresh {} (both [] .zero) := by
  have hk : (Catalog.ofList ([] ++ [pinyin])).get? "us" "en-US" = none := by
    refine Catalog.get?_eq_none (Catalog.indexed_ofList _) ?_
    rw [Catalog.toList_ofList]
    decide +kernel
  simp only [refreshed, both, us, hk]
  rfl

/-- The system stops offering its layout while it is in use. Then an input method is activated. -/
theorem reached_dropped : ∃ h,
    Reached (host []) {} [system, methods] [.activate us, .refresh] (fresh {} (both [] .zero)) h ∧
    outstanding system h = true ∧
    ((fresh {} (both [] .zero)).perform (host []).environment (.activate pinyin)).run h =
      ((.activation .activated, fresh {} (both [] pinyin)),
        h ++ [.asked methods (.activate pinyin) (.ok ())]) := by
  obtain ⟨h, reached⟩ := reached_refreshed []
  rw [refreshed_dropped] at reached
  refine ⟨_, reached, ?_, ?_⟩
  · rw [outstanding_append, outstanding_append, outstanding_append, switched_activate,
      if_pos ⟨rfl, rfl⟩]
    rfl
  · have hstays : leaving? (both [] .zero) .secondary = none := rfl
    rw [run_pinyin [] [] .zero _ (by decide +kernel), hstays, letting, Option.toList_none,
      List.map_nil, List.append_nil]

end Sample

/-- When a keyboard was activated, the other category has nothing on exactly if what it had on
before was the keyboard in use. An adaptor that still has one on was left so by a refresh. -/
theorem exclusive_after_activation_iff (owned : (supplied offered cs).Nodup)
    (reached : Reached o settings offered cs s g)
    (carried : (s.perform o.environment c).run g = ((reply, t), h))
    (activated : reply.isActivated = true) :
    ∃ (i j : Installed) (category : Category), s.installed = some i ∧ t.installed = some j ∧
      j.adaptors = i.adaptors ∧ j.active.category = some category ∧
      (Exclusive j h ↔
        ∀ a ∈ i.adaptors, a.category ≠ category → outstanding a g = true → Tracks i a) ∧
      ∀ a ∈ j.adaptors, a.category ≠ category → outstanding a h = true →
        Stranded o settings offered cs a := by
  cases live : s.installed with
  | none =>
    obtain ⟨reply', he, hr⟩ := perform_disposed (o := o) live c
    rw [he] at carried
    cases carried
    rw [hr] at activated
    cases activated
  | some i =>
    obtain ⟨new, rfl, hperf⟩ := (leads_perform live c).run carried
    obtain ⟨j, category, after, hadaptors, hcategory, hon⟩ :=
      (hperf.switched activated).outstanding_iff (g := g) live (reached_sound reached live)
    refine ⟨i, j, category, rfl, after, hadaptors, hcategory, ?_, ?_⟩
    · rw [Exclusive, hadaptors, hcategory]
      refine forall₂_congr fun a ha => ?_
      rw [ne_eq, Option.some_inj, eq_comm]
      refine imp_congr_right fun other => ?_
      rw [← Bool.not_eq_true, hon a ha other, not_and, not_not]
    · intro a ha other hstill
      rw [hadaptors] at ha
      obtain ⟨hbefore, hlost⟩ := (hon a ha other).1 hstill
      exact stranded_of_not_tracked owned reached live ha hbefore hlost

/-- A layout in use is left before an input method takes over. -/
theorem exclusive_after_activation_iff_left : ∃ (s t : Session) (g h : History) (i j : Installed),
    Reached (Sample.host []) {} [Sample.system, Sample.methods] [.activate Sample.us] s g ∧
    (s.perform (Sample.host []).environment (.activate Sample.pinyin)).run g =
      ((.activation .activated, t), h) ∧
    s.installed = some i ∧ t.installed = some j ∧ outstanding Sample.system g = true ∧
    Tracks i Sample.system ∧ Exclusive j h := by
  obtain ⟨g, reached⟩ := Sample.reached_us []
  have carried := Sample.run_pinyin [] [Sample.us] Sample.us
    (g ++ [.asked Sample.system (.activate Sample.us) (.ok ())]) (by decide +kernel)
  obtain ⟨i, j, category, live, after, hadaptors, hcategory, hiff, -⟩ :=
    exclusive_after_activation_iff (by decide) reached carried rfl
  cases live
  cases after
  cases hcategory
  have htracks : Tracks (Sample.both [Sample.us] Sample.us) Sample.system := ⟨rfl, rfl⟩
  refine ⟨_, _, _, _, _, _, reached, carried, rfl, rfl, ?_, htracks, hiff.2 ?_⟩
  · rw [outstanding_append, switched_activate, if_pos ⟨rfl, rfl⟩]
  · intro a ha other _
    rcases List.mem_cons.1 ha with rfl | ha
    · exact htracks
    · rw [List.mem_singleton.1 ha] at other
      exact (other rfl).elim

/-- It is not so that an activation leaves nothing on in the other category. -/
theorem not_always_exclusive : ¬ ∀ (o : Oracle) (settings : SessionSettings)
    (offered : List Adaptor) (cs : List Command) (c : Command) (s t : Session) (g h : History)
    (reply : Reply) (j : Installed), (supplied offered cs).Nodup →
    Reached o settings offered cs s g → (s.perform o.environment c).run g = ((reply, t), h) →
    reply.isActivated = true → t.installed = some j → Exclusive j h := by
  intro hall
  obtain ⟨g, reached, hon, carried⟩ := Sample.reached_dropped
  have hex := hall _ _ _ _ _ _ _ _ _ _ _ (by decide) reached carried rfl rfl
  have hoff := hex Sample.system List.mem_cons_self (by decide)
  rw [outstanding_append, hon, switched_activate] at hoff
  cases hoff

end Session

end Keyboards
