import Keyboards.Catalog
import Keyboards.Proofs.Catalog.Scanning
import Keyboards.Proofs.Text.Cuts

/-! Resolving an identifier finds what the lookup by old identifier finds, and beyond that only a
layout without a locale. -/

namespace Keyboards

open Text (nfc)

namespace Catalog

variable {c : Catalog} {k : Keyboard} {s t layout locale : String} {us : List Update}

theorem mem_dashReadings :
    (layout, locale) ∈ dashReadings s ↔ s = layout ++ "-" ++ locale := by
  have hdash : (layout ++ "-" ++ locale).toList = layout.toList ++ '-' :: locale.toList := by simp
  rw [dashReadings, List.mem_map, ← String.toList_inj, hdash, ← Text.mem_cuts]
  constructor
  · rintro ⟨⟨before, behind⟩, hin, he⟩
    obtain ⟨rfl, rfl⟩ := Prod.mk.inj he
    simpa using hin
  · intro hin
    exact ⟨_, hin, by simp⟩

theorem Scanned.mem_of_get? (h : Scanned c) (hk : c.get? layout locale = some k) :
    k ∈ c.toList ∧ k.key = (nfc layout, nfc locale) := by
  rw [h.get?_eq, Listing.get?] at hk
  exact ⟨List.mem_of_find?_eq_some hk, by simpa using List.find?_some hk⟩

theorem Scanned.getOrZero_eq (h : Scanned c) (layout locale : String) :
    c.getOrZero layout locale = (c.get? layout locale).getD .zero := by
  rw [getOrZero]
  split_ifs with hempty
  · obtain ⟨rfl, rfl⟩ := hempty
    cases hk : c.get? "" "" with
    | none => rfl
    | some k =>
      obtain ⟨hmem, hkey⟩ := h.mem_of_get? hk
      have hzero : k.isZero = true := by
        obtain ⟨hlayout, hlocale⟩ := Prod.mk.inj hkey
        rw [Keyboard.isZero, hlayout, hlocale]
        rfl
      rw [h.nonzero k hmem] at hzero
      cases hzero
  · rfl

/-- A keyboard with a locale is in reach of its dash reading as an old identifier. -/
theorem Scanned.exists_legacyId (h : Scanned c) (hlocale : locale ≠ "")
    (hk : (c.get? layout locale).isSome = true) :
    ∃ k ∈ c.toList, k.legacyId = nfc (layout ++ "-" ++ locale) := by
  obtain ⟨k, hk⟩ := Option.isSome_iff_exists.1 hk
  obtain ⟨hmem, hkey⟩ := h.mem_of_get? hk
  obtain ⟨hlayout, hlocale'⟩ := Prod.mk.inj hkey
  have hne : k.locale ≠ "" := by
    rw [hlocale']
    exact fun he => hlocale (Text.nfc_eq_empty.1 he)
  refine ⟨k, hmem, ?_⟩
  rw [Keyboard.legacyId, Keyboard.joinId, if_neg hne, Text.nfc_append_dash, hlayout, hlocale']

/-- An old identifier leads to the first keyboard that has it. -/
theorem Scanned.getId?_of_exists (h : Scanned c) (hs : ∃ k ∈ c.toList, k.legacyId = nfc s) :
    ∃ first, c.toList.find? (·.legacyId = nfc s) = some first ∧ c.getId? s = some first := by
  have hsome : (c.toList.find? (·.legacyId = nfc s)).isSome = true := by
    rw [List.find?_isSome]
    simpa using hs
  obtain ⟨first, hfirst⟩ := Option.isSome_iff_exists.1 hsome
  refine ⟨first, hfirst, ?_⟩
  rw [h.getId?_eq, Listing.getId?, hfirst]

theorem Scanned.containsId_iff (h : Scanned c) :
    c.containsId s = true ↔ ∃ k ∈ c.toList, k.legacyId = nfc s := by
  rw [h.containsId_eq, List.any_eq_true]
  simp only [decide_eq_true_eq]

/-- Without a keyboard that has the old identifier, only `layout|locale` is left. -/
theorem getId?_of_not_containsId (hs : c.containsId s = false) :
    c.getId? s = match Text.split '|' s with
      | [layout, locale] => c.get? layout locale
      | _ => none := by
  have hnone : c.byLegacyId[nfc s]? = none := by
    rw [containsId, Std.HashMap.contains_eq_isSome_getElem?] at hs
    simpa using hs
  rw [getId?]
  split
  · rename_i i hi
    rw [hnone] at hi
    cases hi
  · rfl

/-- The dash readings with a locale come to nothing where the identifier is no old identifier. -/
theorem Scanned.get?_reading (h : Scanned c) (hs : c.containsId s = false)
    (hreading : s = layout ++ "-" ++ locale) (hlocale : locale ≠ "") :
    c.get? layout locale = none := by
  rw [← Option.not_isSome_iff_eq_none]
  intro hsome
  rw [h.containsId_iff.2 (hreading ▸ h.exists_legacyId hlocale hsome)] at hs
  cases hs

/-- The one dash reading that counts is that with an empty locale. -/
theorem Scanned.getDashed_cases (h : Scanned c) (hs : c.containsId s = false) :
    (c.getDashed s = .zero ∧ ∀ t, s = t ++ "-" → c.get? t "" = none) ∨
    ∃ t, s = t ++ "-" ∧ c.get? t "" = some (c.getDashed s) := by
  rw [getDashed]
  cases hfirst : ((dashReadings s).map fun p => c.getOrZero p.1 p.2).find? (!·.isZero) with
  | none =>
    refine .inl ⟨rfl, ?_⟩
    rintro t rfl
    cases hget : c.get? t "" with
    | none => rfl
    | some k =>
      have hin : c.getOrZero t "" ∈ (dashReadings (t ++ "-")).map fun p => c.getOrZero p.1 p.2 :=
        List.mem_map.2 ⟨(t, ""), mem_dashReadings.2 (by simp), rfl⟩
      have hzero : k.isZero = true := by
        simpa [h.getOrZero_eq, hget] using List.find?_eq_none.1 hfirst _ hin
      rw [h.nonzero k (h.mem_of_get? hget).1] at hzero
      cases hzero
  | some k =>
    have hnonzero : k.isZero = false := by simpa using List.find?_some hfirst
    obtain ⟨⟨layout, locale⟩, hin, rfl⟩ := List.mem_map.1 (List.mem_of_find?_eq_some hfirst)
    have hreading := mem_dashReadings.1 hin
    rw [h.getOrZero_eq] at hnonzero
    cases hget : c.get? layout locale with
    | none =>
      rw [hget] at hnonzero
      cases hnonzero
    | some k =>
      have hlocale : locale = "" := by
        by_contra hne
        rw [h.get?_reading hs hreading hne] at hget
        cases hget
      subst hlocale
      exact .inr ⟨layout, by simpa using hreading, by simp [h.getOrZero_eq, hget]⟩

theorem Scanned.not_containsId_empty (h : Scanned c) : c.containsId "" = false := by
  rw [← Bool.not_eq_true, h.containsId_iff]
  rintro ⟨k, hk, hid⟩
  have hempty : k.legacyId = "" := hid.trans (Text.nfc_eq_empty.2 rfl)
  have hzero : k.isZero = true := by
    rw [Keyboard.legacyId, Keyboard.joinId] at hempty
    split_ifs at hempty with hlocale
    · simp [Keyboard.isZero, hempty, hlocale]
    · simp at hempty
  rw [h.nonzero k hk] at hzero
  cases hzero

/-- With an old identifier, or with exactly one bar, resolving is looking up. -/
theorem Scanned.resolve_eq_getId? (h : Scanned c)
    (hs : c.containsId s = true ∨ s.toList.count '|' = 1) :
    c.resolve s = (c.getId? s).getD .zero := by
  by_cases hempty : s = ""
  · subst hempty
    rcases hs with hs | hs
    · rw [h.not_containsId_empty] at hs
      cases hs
    · cases hs
  rw [resolve, if_neg hempty]
  cases hid : c.containsId s with
  | true =>
    obtain ⟨first, -, hfirst⟩ := h.getId?_of_exists (h.containsId_iff.1 hid)
    simp [hfirst]
  | false =>
    have hbar : s.toList.count '|' = 1 := by simpa [hid] using hs
    obtain ⟨layout, locale, hsplit⟩ := Text.exists_split_of_count hbar
    simp [getId?_of_not_containsId hid, hsplit, h.getOrZero_eq]

/-- Without either, nothing is looked up and the dash readings are tried. -/
theorem resolve_eq_getDashed (hs : c.containsId s = false) (hbar : s.toList.count '|' ≠ 1) :
    c.getId? s = none ∧ c.resolve s = c.getDashed s := by
  have hsplit : ∀ layout locale, Text.split '|' s ≠ [layout, locale] :=
    fun _ _ he => hbar (Text.split_eq_pair he)
  constructor
  · rw [getId?_of_not_containsId hs]
    split
    · exact absurd ‹_› (hsplit _ _)
    · rfl
  · rw [resolve, hs]
    by_cases hempty : s = ""
    · subst hempty
      rfl
    · simp only [if_neg hempty, Bool.false_eq_true, if_false]

/-- In a catalog that updates made, an identifier resolves to what is found by old identifier. Only
where that finds nothing, one more keyboard is in reach of an identifier that ends in a dash and has
not exactly one bar: that with the layout in front of the dash and no locale. Whatever another dash
reading could find, the first keyboard with the old identifier is found before. -/
theorem resolve_after (made : ∀ u ∈ us, ∀ k ∈ u.keyboards, k.Made) (s : String) :
    let c := (after us).2
    ((¬ ∃ t, s = t ++ "-") ∨ s.toList.count '|' = 1 → c.resolve s = (c.getId? s).getD .zero) ∧
    (∀ t, s = t ++ "-" → s.toList.count '|' ≠ 1 →
      c.resolve s = (c.getId? s).getD ((c.get? t "").getD .zero)) ∧
    ∀ layout locale, locale ≠ "" → s = layout ++ "-" ++ locale →
      (c.get? layout locale).isSome = true → c.containsId s = true ∧
      ∃ first, c.toList.find? (fun k => k.legacyId = nfc s) = some first ∧
        c.getId? s = some first := by
  have h : Scanned (after us).2 := (scanned_after made).1
  refine ⟨?_, ?_, ?_⟩
  · intro hs
    by_cases hlookup : (after us).2.containsId s = true ∨ s.toList.count '|' = 1
    · exact h.resolve_eq_getId? hlookup
    · rw [not_or, Bool.not_eq_true] at hlookup
      obtain ⟨hnone, hdashed⟩ := resolve_eq_getDashed hlookup.1 hlookup.2
      rw [hdashed, hnone]
      obtain ⟨hzero, -⟩ | ⟨t, ht, -⟩ := h.getDashed_cases hlookup.1
      · exact hzero
      · exact absurd ⟨t, ht⟩ (hs.resolve_right hlookup.2)
  · rintro t rfl hbar
    cases hid : (after us).2.containsId (t ++ "-") with
    | true =>
      obtain ⟨first, -, hfirst⟩ := h.getId?_of_exists (h.containsId_iff.1 hid)
      rw [h.resolve_eq_getId? (.inl hid), hfirst]
      rfl
    | false =>
      obtain ⟨hnone, hdashed⟩ := resolve_eq_getDashed hid hbar
      rw [hdashed, hnone]
      obtain ⟨hzero, hout⟩ | ⟨u, hu, hget⟩ := h.getDashed_cases hid
      · rw [hzero, hout t rfl]
        rfl
      · rw [String.append_left_inj] at hu
        rw [hu] at hget ⊢
        rw [hget]
        rfl
  · rintro layout locale hlocale rfl hget
    have hs := h.exists_legacyId hlocale hget
    exact ⟨h.containsId_iff.2 hs, h.getId?_of_exists hs⟩

/-- A keyboard without a locale is found behind a dash although no old identifier is, and where two
keyboards share an old identifier, the first one is found, not that with the shortest layout. -/
theorem resolve_after_shared : ∃ us : List Update, (∀ u ∈ us, ∀ k ∈ u.keyboards, k.Made) ∧
    (after us).2.getId? "d-" = none ∧ ((after us).2.resolve "d-").key = ("d", "") ∧
    ((after us).2.get? "a" "b-c").isSome = true ∧
    ((after us).2.resolve "a-b-c").key = ("a-b", "c") := by
  let us : List Update := [.extend [.make "a-b" "c" .primary "system",
    .make "a" "b-c" .primary "system", .make "d" "" .primary "system"]]
  have made : ∀ u ∈ us, ∀ k ∈ u.keyboards, k.Made := by
    simp [us, Update.keyboards, Keyboard.Made.make]
  obtain ⟨h, -, hl⟩ := scanned_after made
  have hnone : (after us).2.getId? "d-" = none := by
    rw [h.getId?_eq, hl]
    decide +kernel
  have hlookup : (after us).2.get? "a" "b-c" =
      some (.make "a" "b-c" .primary "system") := by
    rw [h.get?_eq, hl]
    decide +kernel
  refine ⟨us, made, hnone, ?_, by rw [hlookup]; rfl, ?_⟩
  · rw [(resolve_after made "d-").2.1 "d" rfl (by decide), hnone, h.get?_eq, hl]
    decide +kernel
  · rw [(resolve_after made "a-b-c").1 (.inl ?_), h.getId?_eq, hl]
    · decide +kernel
    · rintro ⟨t, ht⟩
      have hlast := congrArg (fun s => s.toList.getLast?) ht
      simp at hlast

end Catalog

end Keyboards
