import Keyboards.Proofs.Session.Soundness

/-! The catalog holds what the adaptors last offered, and the keyboard in use is one of its own. -/

namespace Keyboards

/-- Commands that fill the catalog anew if they succeed. -/
def Command.fills : Command → Bool
  | .replaceAdaptors _ | .refresh => true
  | _ => false

namespace History

variable {offered : List Adaptor} {result : Except SessionError Installed} {g h : History}

/-- The answers of adaptors that were asked for their keyboards. -/
def enumerated (h : History) : List Offer :=
  h.filterMap fun
    | .asked a .enumerate answer => some (a, answer)
    | _ => none

@[simp] theorem enumerated_append : enumerated (g ++ h) = enumerated g ++ enumerated h :=
  List.filterMap_append

@[simp] theorem enumerated_enumerations (xs : List Offer) : enumerated (enumerations xs) = xs := by
  induction xs with
  | nil => rfl
  | cons x xs ih => exact congrArg (x :: ·) ih

@[simp] theorem enumerated_questions (vs : List Verdict) : enumerated (questions vs) = [] := by
  simp [enumerated, questions]

@[simp] theorem enumerated_closings (as : List Adaptor) : enumerated (closings as) = [] := by
  simp [enumerated, closings]

@[simp] theorem enumerated_announcements (targets : FocusTargets) (as : List Adaptor) :
    enumerated (announcements targets as) = [] := by
  simp [enumerated, announcements, List.filterMap_flatMap]

@[simp] theorem enumerated_introduction (i : Installed) : enumerated (introduction i) = [] := rfl

end History

namespace Session

open History

variable {o : Oracle} {settings : SessionSettings} {offered : List Adaptor} {cs : List Command}
  {s t : Session} {i : Installed} {g h new : History} {c : Command} {reply : Reply}
  {offers : List Offer}

/-- The answers of the last enumeration by which the commands filled the catalog, at the opening or
later. An enumeration counts if its command succeeded. -/
inductive LastFilled (o : Oracle) (settings : SessionSettings) (offered : List Adaptor) :
    List Command → List Offer → Prop where
  | opening {s : Session} {h : History} (opened : Reached o settings offered [] s h) :
      LastFilled o settings offered [] (enumerated h)
  | filling {cs : List Command} {s t : Session} {h new : History} {c : Command}
      (before : Reached o settings offered cs s h) (fills : c.fills = true)
      (carried : (s.perform o.environment c).run h = ((.done, t), h ++ new)) :
      LastFilled o settings offered (cs ++ [c]) (enumerated new)
  | kept {cs : List Command} {s t : Session} {h new : History} {c : Command} {reply : Reply}
      {offers : List Offer} (before : Reached o settings offered cs s h)
      (carried : (s.perform o.environment c).run h = ((reply, t), h ++ new))
      (other : ¬ (c.fills = true ∧ reply = .done))
      (last : LastFilled o settings offered cs offers) :
      LastFilled o settings offered (cs ++ [c]) offers

theorem Reached.unique (hs : Reached o settings offered cs s g)
    (ht : Reached o settings offered cs t h) : s = t ∧ g = h := by
  obtain ⟨s₀, g₀, _, hs₀, hs⟩ := hs
  obtain ⟨t₀, h₀, _, ht₀, ht⟩ := ht
  cases hs₀.symm.trans ht₀
  cases hs.symm.trans ht
  exact ⟨rfl, rfl⟩

theorem lastFilled_nil (opened : Reached o settings offered [] s h) :
    LastFilled o settings offered [] offers ↔ offers = enumerated h := by
  constructor
  · generalize hcs : ([] : List Command) = cs
    intro last
    cases last with
    | opening opened' => rw [(opened.unique opened').2]
    | filling | kept => simp at hcs
  · rintro rfl
    exact .opening opened

/-- What a command makes of the last enumeration. -/
theorem lastFilled_snoc (before : Reached o settings offered cs s h)
    (carried : (s.perform o.environment c).run h = ((reply, t), h ++ new)) :
    LastFilled o settings offered (cs ++ [c]) offers ↔
      c.fills = true ∧ reply = .done ∧ offers = enumerated new ∨
      ¬ (c.fills = true ∧ reply = .done) ∧ LastFilled o settings offered cs offers := by
  constructor
  · generalize hcs : cs ++ [c] = ds
    intro last
    cases last with
    | opening => simp at hcs
    | filling before' fills carried' =>
      obtain ⟨rfl, hc⟩ := List.append_inj' hcs rfl
      cases hc
      obtain ⟨rfl, rfl⟩ := before.unique before'
      rw [carried, Prod.mk.injEq, Prod.mk.injEq, List.append_cancel_left_eq] at carried'
      obtain ⟨⟨rfl, rfl⟩, rfl⟩ := carried'
      exact .inl ⟨fills, rfl, rfl⟩
    | kept before' carried' other last =>
      obtain ⟨rfl, hc⟩ := List.append_inj' hcs rfl
      cases hc
      obtain ⟨rfl, rfl⟩ := before.unique before'
      rw [carried, Prod.mk.injEq, Prod.mk.injEq, List.append_cancel_left_eq] at carried'
      obtain ⟨⟨rfl, rfl⟩, rfl⟩ := carried'
      exact .inr ⟨other, last⟩
  · rintro (⟨fills, rfl, rfl⟩ | ⟨other, last⟩)
    · exact .filling before fills carried
    · exact .kept before carried other last

/-- An installation and the answers that filled its catalog. -/
structure Fits (i : Installed) (offers : List Offer) : Prop where
  adaptors : offers.map Prod.fst = i.adaptors
  catalog : i.catalog = Catalog.ofList (offers.flatMap Offer.keyboards)

theorem Starting.enumerated {x y : Option Adaptor} (h : Starting x y new) :
    enumerated new = [] := by
  cases h <;> rfl

theorem fits_of_installing (h : Installing offered (.ok i) new) : Fits i (enumerated new) := by
  cases h with
  | installed judged one two listed =>
    simp only [enumerated_append, enumerated_questions, enumerated_closings, one.enumerated,
      two.enumerated, enumerated_enumerations, List.nil_append]
    exact ⟨listed, rfl⟩

/-- Steps keep what the catalog rests on. -/
theorem Fits.steps (hf : Fits i offers) (path : Steps s new t) (live : s.installed = some i)
    {j : Installed} (after : t.installed = some j) : Fits j offers := by
  obtain ⟨k, hk, -⟩ := path.frame live
  cases after.symm.trans hk
  exact ⟨hf.adaptors, hf.catalog⟩

/-- A command that fills the catalog leaves it filled with the answers that it got; any other
leaves it filled as it was. -/
theorem Performed.fits (h : Performed s c reply new t) (live : s.installed = some i)
    (hf : ∀ offers, LastFilled o settings offered cs offers → Fits i offers)
    {j : Installed} (after : t.installed = some j) :
    (c.fills = true ∧ reply = .done → Fits j (enumerated new)) ∧
    (¬ (c.fills = true ∧ reply = .done) →
      ∀ offers, LastFilled o settings offered cs offers → Fits j offers) := by
  cases h with
  | steps plain path =>
    have hc : c.fills = false := by cases c <;> simp_all [Command.isPlain, Command.fills]
    simp only [hc, Bool.false_eq_true, false_and, not_false_eq_true, forall_true_left,
      false_implies, true_and]
    exact fun offers last => (hf offers last).steps path live after
  | refusal live' installing =>
    cases live.symm.trans after
    exact ⟨fun h => by simp at h, fun _ => hf⟩
  | replacement live' installing =>
    cases after
    refine ⟨fun _ => ?_, fun h => (h ⟨rfl, rfl⟩).elim⟩
    simpa using fits_of_installing installing
  | refresh live' listed =>
    cases live.symm.trans live'
    cases after
    refine ⟨fun _ => ?_, fun h => (h ⟨rfl, rfl⟩).elim⟩
    rw [enumerated_enumerations]
    exact ⟨listed, rfl⟩
  | shutDown => cases after

theorem exists_lastFilled (reached : Reached o settings offered cs s h) :
    ∃ offers, LastFilled o settings offered cs offers := by
  refine Reached.induct (P := fun cs _ _ => ∃ offers, LastFilled o settings offered cs offers)
    ?_ ?_ ?_ reached
  · intro i new opened _
    exact ⟨_, .opening opened⟩
  · rintro cs s h i c reply new t before ⟨offers, last⟩ _ carried _
    by_cases hc : c.fills = true ∧ reply = .done
    · obtain ⟨fills, rfl⟩ := hc
      exact ⟨_, .filling before fills carried⟩
    · exact ⟨offers, .kept before carried hc last⟩
  · rintro cs s h c reply before ⟨offers, last⟩ gone carried
    have hc : ¬ (c.fills = true ∧ reply = .done) := by
      rintro ⟨fills, rfl⟩
      obtain ⟨settings, installed, warned, targets, listeners⟩ := s
      cases gone
      cases c <;> cases fills <;> cases carried
    have carried' : (s.perform o.environment c).run h = ((reply, s), h ++ []) := by
      rw [List.append_nil]
      exact carried
    exact ⟨offers, .kept before carried' hc last⟩

theorem reached_fits (reached : Reached o settings offered cs s h)
    (live : s.installed = some i) (last : LastFilled o settings offered cs offers) :
    Fits i offers := by
  refine Reached.induct (P := fun cs s _ => ∀ i, s.installed = some i →
    ∀ offers, LastFilled o settings offered cs offers → Fits i offers) ?_ ?_ ?_
    reached i live offers last
  · rintro i new opened installing _ ⟨⟩ offers last
    rw [lastFilled_nil opened, enumerated_append, enumerated_introduction, List.append_nil] at last
    rw [last]
    exact fits_of_installing installing
  · intro cs s h i c reply new t before ih live carried hperf j after offers last
    obtain ⟨hnew, hold⟩ := hperf.fits live (ih i live) after
    rcases (lastFilled_snoc before carried).1 last with ⟨fills, done, rfl⟩ | ⟨other, last⟩
    · exact hnew ⟨fills, done⟩
    · exact hold other offers last
  · intro cs s h c reply _ _ gone _ i live
    cases gone.symm.trans live

/-- After every run the catalog holds, of each key, the first keyboard that the installed adaptors
offered when they were last asked, the primary one first; and no keyboard is in use, or one is
exactly as the catalog has it. -/
theorem reached_consistent (reached : Reached o settings offered cs s h)
    (live : s.installed = some i) :
    (∃ offers, LastFilled o settings offered cs offers) ∧
    (∀ offers, LastFilled o settings offered cs offers →
      offers.map Prod.fst = i.adaptors ∧
      i.catalog = Catalog.ofList (offers.flatMap Offer.keyboards) ∧
      i.catalog.toList = Catalog.firstOfEach (offers.flatMap Offer.keyboards)) ∧
    (i.active = .zero ∨ i.catalog.get? i.active.layout i.active.locale = some i.active) := by
  refine ⟨exists_lastFilled reached, ?_, (reached_sound reached live).active⟩
  intro offers last
  obtain ⟨hadaptors, hcatalog⟩ := reached_fits reached live last
  refine ⟨hadaptors, hcatalog, ?_⟩
  rw [hcatalog, Catalog.toList_ofList]

/-- The layout of the small host under another name. -/
def english : Keyboard := { Sample.us with name := "English" }

theorem get?_english :
    (Catalog.ofList ([english] ++ [Sample.pinyin])).get? "us" "en-US" = some english := by
  refine Catalog.get?_of_mem (k := english) (Catalog.indexed_ofList _) ?_
  rw [Catalog.toList_ofList]
  decide +kernel

/-- A layout in use that is offered anew under another name is in use as it is offered now. -/
theorem reached_consistent_renamed : ∃ s h i,
    Reached (Sample.host [english]) {} [Sample.system, Sample.methods]
      [.activate Sample.us, .refresh] s h ∧
    s.installed = some i ∧ i.active = english ∧
    (∃ offers, LastFilled (Sample.host [english]) {} [Sample.system, Sample.methods]
      [.activate Sample.us, .refresh] offers ∧
      i.catalog.toList = Catalog.firstOfEach (offers.flatMap Offer.keyboards)) ∧
    i.catalog.get? i.active.layout i.active.locale = some i.active := by
  obtain ⟨h, reached⟩ := Sample.reached_refreshed [english]
  obtain ⟨⟨offers, last⟩, hcatalog, hactive⟩ := reached_consistent reached rfl
  have hin : ((Catalog.ofList ([english] ++ [Sample.pinyin])).get? "us" "en-US").getD .zero =
      english := by
    rw [get?_english]
    rfl
  refine ⟨_, _, _, reached, rfl, hin, ⟨offers, last, (hcatalog offers last).2.2⟩, ?_⟩
  rcases hactive with h0 | h0
  · exact absurd (hin.symm.trans h0) (by decide)
  · exact h0

end Session

end Keyboards
