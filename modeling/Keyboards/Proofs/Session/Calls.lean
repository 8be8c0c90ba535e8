import Mathlib.Data.List.Nodup
import Keyboards.Proofs.Session.Soundness

/-! Which adaptors are called, and that no one is called who was not handed over. -/

namespace Keyboards

/-- Requests to an adaptor in use; the others are about taking it into use and out of it. -/
def Request.isWork : Request → Bool
  | .isApplicable | .start | .close => false
  | _ => true

/-- Requests that put a keyboard of the host into use or out of use. -/
def Request.isSwitch : Request → Bool
  | .activate _ | .deactivate _ => true
  | _ => false

/-- Requests to adaptors on offer, some of which are taken into use. -/
def Request.isStaging : Request → Bool
  | .isApplicable | .start | .close | .enumerate => true
  | _ => false

theorem Request.isWork_of_isQuestion {r : Request} (h : r.isQuestion = true) : r.isWork = true := by
  cases r <;> first | rfl | cases h

theorem Request.isSwitch_of_isQuestion {r : Request} (h : r.isQuestion = true) :
    r.isSwitch = false := by
  cases r <;> first | rfl | cases h

theorem Request.isSwitch_of_isStaging {r : Request} (h : r.isStaging = true) :
    r.isSwitch = false := by
  cases r <;> first | rfl | cases h

namespace History

variable {a : Adaptor} {h g : History} {P Q : Adaptor → Request → Prop}

/-- Every request in a history fits. -/
def Asks (P : Adaptor → Request → Prop) (h : History) : Prop :=
  ∀ a r, ∀ answer : Request.Answer r, .asked a r answer ∈ h → P a r

theorem Asks.mono (hp : Asks P h) (hpq : ∀ a r, P a r → Q a r) : Asks Q h :=
  fun a r answer he => hpq a r (hp a r answer he)

theorem asks_append : Asks P (g ++ h) ↔ Asks P g ∧ Asks P h := by
  constructor
  · intro hp
    exact ⟨fun a r answer he => hp a r answer (List.mem_append_left _ he),
      fun a r answer he => hp a r answer (List.mem_append_right _ he)⟩
  · rintro ⟨hg, hh⟩ a r answer he
    rcases List.mem_append.1 he with he | he
    · exact hg a r answer he
    · exact hh a r answer he

theorem Asks.of_mem_calls (hp : Asks P h) {c : Call} (hc : c ∈ calls a h) : P a c.1 :=
  hp a c.1 c.2 (mem_calls.1 hc)

theorem Asks.calls_eq_nil (hp : Asks P h) (ha : ∀ r, ¬ P a r) : calls a h = [] :=
  List.eq_nil_iff_forall_not_mem.2 fun c hc => ha c.1 (hp.of_mem_calls hc)

theorem asks_letting {x : Option Adaptor} {k : Keyboard}
    (hp : ∀ a, x = some a → P a (.deactivate k)) : Asks P (letting x k) := by
  intro a r answer he
  simp only [letting, List.mem_map, Option.mem_toList] at he
  obtain ⟨b, hb, he⟩ := he
  cases he
  exact hp _ hb

theorem asks_restoring {x : Option Adaptor} {k : Keyboard} {back : Except AdaptorError Unit}
    (hp : ∀ a, x = some a → P a (.activate k)) : Asks P (restoring x k back) := by
  intro a r answer he
  simp only [restoring, List.mem_map, Option.mem_toList] at he
  obtain ⟨b, hb, he⟩ := he
  cases he
  exact hp _ hb

theorem asks_singleton {r : Request} {answer : r.Answer} (hp : P a r) :
    Asks P [.asked a r answer] := by
  intro b q x he
  cases List.mem_singleton.1 he
  exact hp

theorem asks_news {as : List Adaptor} {ls : List Listener} {e : FocusEvent}
    (hp : ∀ a ∈ as, P a (.focus e)) : Asks P (news as ls e) := by
  intro a r answer he
  simp only [news, List.mem_append, List.mem_map, reduceCtorEq, and_false, exists_false,
    or_false] at he
  obtain ⟨b, hb, he⟩ := he
  cases he
  exact hp _ hb

theorem asks_questions {vs : List Verdict} (hp : ∀ a ∈ vs.map Prod.fst, P a .isApplicable) :
    Asks P (questions vs) := by
  intro a r answer he
  obtain ⟨v, hv, he⟩ := List.mem_map.1 he
  cases he
  exact hp v.1 (List.mem_map_of_mem hv)

theorem asks_closings {as : List Adaptor} (hp : ∀ a ∈ as, P a .close) : Asks P (closings as) := by
  intro a r answer he
  obtain ⟨b, hb, he⟩ := List.mem_map.1 he
  cases he
  exact hp _ hb

theorem asks_enumerations {xs : List Offer} (hp : ∀ a ∈ xs.map Prod.fst, P a .enumerate) :
    Asks P (enumerations xs) := by
  intro a r answer he
  obtain ⟨x, hx, he⟩ := List.mem_map.1 he
  cases he
  exact hp x.1 (List.mem_map_of_mem hx)

theorem asks_announcements {targets : FocusTargets} {as : List Adaptor}
    (hp : ∀ a ∈ as, ∀ e, P a (.focus e)) : Asks P (announcements targets as) := by
  intro a r answer he
  simp only [announcements, List.mem_flatMap, List.mem_map] at he
  obtain ⟨t, -, b, hb, he⟩ := he
  cases he
  exact hp _ hb _

theorem asks_introduction (i : Installed) : Asks P (introduction i) := by
  intro a r answer he
  simp [introduction] at he

end History

namespace Session

open History

variable {o : Oracle} {settings : SessionSettings} {offered : List Adaptor} {cs : List Command}
  {s t : Session} {i : Installed} {h new : History} {a : Adaptor} {c : Command} {reply : Reply}
  {result : Except SessionError Installed}

/-- What an adaptor in use can be asked. -/
def Working (as : List Adaptor) (a : Adaptor) (r : Request) : Prop := a ∈ as ∧ r.isWork = true

theorem mem_of_bind_serving {category : Option Category}
    (h : category.bind i.serving = some a) : a ∈ i.adaptors := by
  obtain ⟨c, -, hc⟩ := Option.bind_eq_some_iff.1 h
  exact Installed.serving_mem hc

theorem leaving?_eq_some {c : Category} :
    leaving? i c = some a ↔ i.active.isZero = false ∧ i.active.category ≠ some c ∧
      i.active.category.bind i.serving = some a := by
  rw [leaving?]
  by_cases hz : i.active.isZero = true <;> by_cases hc : i.active.category = some c <;>
    simp [hz, hc]

theorem Step.asks (h : Step s new t) (live : s.installed = some i) :
    Asks (Working i.adaptors) new := by
  have hleave : ∀ c a, leaving? i c = some a → a ∈ i.adaptors := fun c a ha =>
    mem_of_bind_serving (leaving?_eq_some.1 ha).2.2
  cases h with
  | question live' mem asks =>
    cases live.symm.trans live'
    exact asks_singleton ⟨mem, Request.isWork_of_isQuestion asks⟩
  | warning =>
    intro a r answer he
    simp at he
  | adoption live' =>
    cases live.symm.trans live'
    exact asks_singleton ⟨List.mem_cons_self, rfl⟩
  | switch live' usable serves =>
    cases live.symm.trans live'
    exact asks_append.2 ⟨asks_letting fun a ha => ⟨hleave _ a ha, rfl⟩,
      asks_singleton ⟨Installed.serving_mem serves, rfl⟩⟩
  | failure live' usable serves =>
    cases live.symm.trans live'
    exact asks_append.2 ⟨asks_letting fun a ha => ⟨hleave _ a ha, rfl⟩,
      asks_append.2 ⟨asks_singleton ⟨Installed.serving_mem serves, rfl⟩,
        asks_restoring fun a ha => ⟨hleave _ a ha, rfl⟩⟩⟩
  | release live' =>
    cases live.symm.trans live'
    split
    · intro a r answer he
      simp at he
    · exact asks_letting fun a ha => ⟨mem_of_bind_serving ha, rfl⟩
  | register live' =>
    cases live.symm.trans live'
    exact asks_news fun a ha => ⟨ha, rfl⟩
  | unregister live' =>
    cases live.symm.trans live'
    exact asks_news fun a ha => ⟨ha, rfl⟩
  | listen =>
    intro a r answer he
    simp at he

/-- Steps ask nobody but the installed adaptors, and these only for what an adaptor in use does. -/
theorem Steps.asks (h : Steps s new t) (live : s.installed = some i) :
    Asks (Working i.adaptors) new := by
  induction h with
  | refl =>
    intro a r answer he
    simp at he
  | tail before last ih =>
    obtain ⟨k, hk, -⟩ := before.frame live
    have hlast := last.asks hk
    exact asks_append.2 ⟨ih, hlast⟩

theorem Starting.asks {x y : Option Adaptor} (h : Starting x y new) :
    Asks (fun a r => x = some a ∧ r.isStaging = true) new := by
  cases h with
  | absent =>
    intro a r answer he
    simp at he
  | started a => exact asks_singleton ⟨rfl, rfl⟩
  | failed a e =>
    intro b r answer he
    simp only [List.mem_cons, Event.asked.injEq, List.not_mem_nil, or_false] at he
    rcases he with ⟨rfl, rfl, -⟩ | ⟨rfl, rfl, -⟩ <;> exact ⟨rfl, rfl⟩

theorem mem_of_unused {vs : List Verdict} (ha : a ∈ (Selection.ofVerdicts vs).unused) :
    a ∈ vs.map Prod.fst :=
  (Selection.all_ofVerdicts vs).mem_iff.1 (List.mem_append_left _ ha)

theorem mem_of_place {vs : List Verdict} (category : Category)
    (ha : (Selection.ofVerdicts vs).place category = some a) : a ∈ vs.map Prod.fst := by
  rw [Selection.place_ofVerdicts] at ha
  exact (Selection.lastApplicable_mem ha).1

/-- Of an offer no adaptor gets in place but those on offer. -/
theorem Installing.mem_of_mem_adaptors (h : Installing offered (.ok i) new)
    (ha : a ∈ i.adaptors) : a ∈ offered := by
  cases h with
  | installed judged one two listed =>
    subst judged
    rcases List.mem_cons.1 ha with rfl | ha
    · exact mem_of_place .primary one.eq_some.1
    · rw [Option.mem_toList] at ha
      dsimp only at ha
      subst ha
      exact mem_of_place .secondary two.eq_some.1

/-- An offer of adaptors asks nobody else, and nothing but what the choice among them takes. -/
theorem Installing.asks (h : Installing offered result new) :
    Asks (fun a r => a ∈ offered ∧ r.isStaging = true) new := by
  have hstart : ∀ {vs : List Verdict} (category : Category) {y : Option Adaptor} {g : History},
      Starting ((Selection.ofVerdicts vs).place category) y g →
      Asks (fun a r => a ∈ vs.map Prod.fst ∧ r.isStaging = true) g :=
    fun category _ _ hs => hs.asks.mono fun a r ha => ⟨mem_of_place category ha.1, ha.2⟩
  cases h with
  | refused judged one two =>
    subst judged
    refine asks_append.2 ⟨asks_questions fun a ha => ⟨ha, rfl⟩,
      asks_append.2 ⟨asks_closings fun a ha => ⟨mem_of_unused ha, rfl⟩,
        asks_append.2 ⟨hstart .primary one,
          asks_append.2 ⟨hstart .secondary two,
            asks_closings fun a ha => ⟨?_, rfl⟩⟩⟩⟩⟩
    rw [Option.mem_toList] at ha
    subst ha
    exact mem_of_place .secondary two.eq_some.1
  | installed judged one two listed =>
    have hmem := fun a => Installing.mem_of_mem_adaptors (a := a) (.installed judged one two listed)
    subst judged
    refine asks_append.2 ⟨asks_questions fun a ha => ⟨ha, rfl⟩,
      asks_append.2 ⟨asks_closings fun a ha => ⟨mem_of_unused ha, rfl⟩,
        asks_append.2 ⟨hstart .primary one,
          asks_append.2 ⟨hstart .secondary two,
            asks_enumerations fun a ha => ⟨?_, rfl⟩⟩⟩⟩⟩
    rw [listed] at ha
    exact hmem a ha

/-- An offer of adaptors puts no keyboard into use. -/
theorem Installing.asks_no_switch (h : Installing offered result new) :
    Asks (fun _ r => r.isSwitch = false) new :=
  h.asks.mono fun _ _ hr => Request.isSwitch_of_isStaging hr.2

/-- A command asks nobody but the installed adaptors and those that it hands over. -/
theorem Performed.asks (h : Performed s c reply new t) (live : s.installed = some i) :
    Asks (fun a _ => a ∈ i.adaptors ∨ a ∈ c.offers) new := by
  cases h with
  | steps plain path => exact (path.asks live).mono fun a r ha => .inl ha.1
  | refusal live' installing => exact installing.asks.mono fun a _ ha => .inr ha.1
  | replacement live' installing =>
    cases live.symm.trans live'
    exact asks_append.2 ⟨installing.asks.mono fun a _ ha => .inr ha.1,
      asks_append.2 ⟨asks_announcements fun a ha _ => .inr (installing.mem_of_mem_adaptors ha),
        asks_append.2 ⟨asks_closings fun a ha => .inl ha, asks_introduction _⟩⟩⟩
  | refresh live' listed =>
    cases live.symm.trans live'
    exact asks_enumerations fun a ha => .inl (listed ▸ ha)
  | shutDown live' =>
    cases live.symm.trans live'
    exact asks_closings fun a ha => .inl ha

/-- What is installed after a command was installed before or handed over with it. -/
theorem Performed.mem_adaptors (h : Performed s c reply new t) (live : s.installed = some i)
    {j : Installed} (after : t.installed = some j) (ha : a ∈ j.adaptors) :
    a ∈ i.adaptors ∨ a ∈ c.offers := by
  cases h with
  | steps plain path =>
    obtain ⟨k, hk, -⟩ := path.frame live
    cases after.symm.trans hk
    exact .inl ha
  | refusal live' installing =>
    cases live.symm.trans after
    exact .inl ha
  | replacement live' installing =>
    cases after
    exact .inr (installing.mem_of_mem_adaptors ha)
  | refresh live' listed =>
    cases live.symm.trans live'
    cases after
    exact .inl ha
  | shutDown => cases after

/-- All adaptors that were handed over, at the opening or later. Who hands an adaptor over gives it
away, so none comes twice. -/
def supplied (offered : List Adaptor) (cs : List Command) : List Adaptor :=
  offered ++ cs.flatMap Command.offers

theorem supplied_snoc (offered : List Adaptor) (cs : List Command) (c : Command) :
    supplied offered (cs ++ [c]) = supplied offered cs ++ c.offers := by
  simp [supplied]

/-- Only adaptors that were handed over are in place. -/
theorem mem_supplied_of_reached (reached : Reached o settings offered cs s h)
    (live : s.installed = some i) (ha : a ∈ i.adaptors) : a ∈ supplied offered cs := by
  refine Reached.induct (P := fun cs s _ => ∀ i, s.installed = some i → a ∈ i.adaptors →
    a ∈ supplied offered cs) ?_ ?_ ?_ reached i live ha
  · rintro i new _ installing _ ⟨⟩ ha
    simpa [supplied] using installing.mem_of_mem_adaptors ha
  · intro cs s h i c reply new t _ ih live _ hperf j after ha
    rw [supplied_snoc, List.mem_append]
    exact (hperf.mem_adaptors live after ha).imp_left (ih i live)
  · intro cs s h c reply _ ih gone _ i live
    cases gone.symm.trans live

/-- Nobody is asked who was not handed over. -/
theorem reached_asks (reached : Reached o settings offered cs s h) :
    Asks (fun a _ => a ∈ supplied offered cs) h := by
  refine Reached.induct (P := fun cs _ h => Asks (fun a _ => a ∈ supplied offered cs) h)
    ?_ ?_ ?_ reached
  · intro i new _ installing
    refine asks_append.2 ⟨installing.asks.mono fun a _ ha => ?_, asks_introduction i⟩
    simpa [supplied] using ha.1
  · intro cs s h i c reply new t before ih live _ hperf
    rw [supplied_snoc]
    refine asks_append.2 ⟨ih.mono fun a _ ha => List.mem_append_left _ ha,
      (hperf.asks live).mono fun a _ ha => ?_⟩
    rcases ha with ha | ha
    · exact List.mem_append_left _ (mem_supplied_of_reached before live ha)
    · exact List.mem_append_right _ ha
  · intro cs s h c reply _ ih _ _
    rw [supplied_snoc]
    exact ih.mono fun a _ ha => List.mem_append_left _ ha

/-- An adaptor is handed over for good: nobody has asked it anything before. -/
theorem calls_of_offered (owned : (supplied offered (cs ++ [c])).Nodup)
    (reached : Reached o settings offered cs s h) (ha : a ∈ c.offers) : calls a h = [] := by
  rw [supplied_snoc] at owned
  have hdisjoint := List.disjoint_of_nodup_append owned
  exact (reached_asks reached).calls_eq_nil fun _ hmem => hdisjoint hmem ha

end Session

end Keyboards
