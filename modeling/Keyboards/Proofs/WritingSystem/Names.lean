import Keyboards.Proofs.Text.Equivalence
import Keyboards.WritingSystem

/-! An old keyboard name is its layout, a dash and its locale, however its characters are
composed. -/

namespace Keyboards.LegacyName

open Text

variable {name front : List Char} {x : List Char} {xs ys : List (List Char)}

theorem joinDashes_cons (h : xs ≠ []) : joinDashes (x :: xs) = x ++ '-' :: joinDashes xs := by
  rw [joinDashes, List.intercalate_cons_of_ne_nil h, List.append_assoc]
  rfl

theorem joinDashes_append (hx : xs ≠ []) (hy : ys ≠ []) :
    joinDashes (xs ++ ys) = joinDashes xs ++ '-' :: joinDashes ys := by
  induction xs with
  | nil => exact (hx rfl).elim
  | cons x xs ih =>
    by_cases hrest : xs = []
    · subst hrest
      have hone : joinDashes [x] = x := by simp [joinDashes]
      rw [hone]
      exact joinDashes_cons hy
    · have happend : xs ++ ys ≠ [] := by simp [hrest]
      rw [List.cons_append, joinDashes_cons happend, ih hrest, joinDashes_cons hrest]
      simp

/-- The locale consists of the last segments, as far as there are two, but never of all. -/
theorem exists_localeChars_eq (name : List Char) :
    ∃ k, 0 < k ∧ localeChars name = joinDashes ((fields '-' name).drop k) ∧
      ((fields '-' name).drop k).length = min 2 (name.count '-') := by
  have hlength := length_fields '-' name
  rw [localeChars]
  split_ifs with hshort
  · refine ⟨1, by omega, rfl, ?_⟩
    rw [List.length_drop]
    omega
  · refine ⟨_, by omega, rfl, ?_⟩
    rw [List.length_drop]
    omega

/-- A locale stands behind a dash. -/
theorem exists_append_localeChars (h : localeChars name ≠ []) :
    ∃ front, name = front ++ '-' :: localeChars name := by
  obtain ⟨k, hk, hlocale, -⟩ := exists_localeChars_eq name
  have hdrop : (fields '-' name).drop k ≠ [] := by
    intro hnil
    rw [hlocale, hnil] at h
    exact h rfl
  have htake : (fields '-' name).take k ≠ [] := by
    intro hnil
    rcases List.take_eq_nil_iff.1 hnil with hzero | hfields
    · omega
    · rw [hfields] at hdrop
      exact hdrop List.drop_nil
  refine ⟨joinDashes ((fields '-' name).take k), ?_⟩
  rw [hlocale, ← joinDashes_append htake hdrop, List.take_append_drop, joinDashes,
    intercalate_fields]

theorem layoutChars_of_append (h : localeChars name ≠ [])
    (happend : name = front ++ '-' :: localeChars name) : layoutChars name = front := by
  have hempty : (localeChars name).isEmpty = false := by simpa using h
  have hlength := congrArg List.length happend
  rw [List.length_append, List.length_cons] at hlength
  rw [layoutChars, hempty]
  simp only [Bool.false_eq_true, if_false]
  rw [show name.length - ((localeChars name).length + 1) = front.length by omega]
  conv_lhs => rw [happend]
  exact List.take_left

/-- Layout and locale, joined by a dash, are the name. -/
theorem layoutChars_append_localeChars (h : localeChars name ≠ []) :
    name = layoutChars name ++ '-' :: localeChars name := by
  obtain ⟨front, hfront⟩ := exists_append_localeChars h
  rw [layoutChars_of_append h hfront]
  exact hfront

section Composition

theorem joinDashes_nfcChars (xs : List (List Char)) :
    joinDashes (xs.map nfcChars) = nfcChars (joinDashes xs) := by
  induction xs with
  | nil => rfl
  | cons x xs ih =>
    by_cases hrest : xs = []
    · subst hrest
      simp [joinDashes]
    · have hmap : xs.map nfcChars ≠ [] := by simpa using hrest
      rw [List.map_cons, joinDashes_cons hmap, joinDashes_cons hrest, ih,
        nfcChars_append_separator (.inl rfl)]

theorem localeChars_nfcChars (name : List Char) :
    localeChars (nfcChars name) = nfcChars (localeChars name) := by
  have hfields : fields '-' (nfcChars name) = (fields '-' name).map nfcChars :=
    IsSeparator.fields_nfcChars (.inl rfl) name
  rw [localeChars, localeChars, hfields, List.length_map, ← List.map_drop, ← List.map_drop,
    joinDashes_nfcChars, joinDashes_nfcChars]
  split_ifs <;> rfl

theorem nfcChars_eq_nil {cs : List Char} : nfcChars cs = [] ↔ cs = [] := by
  have h := nfc_eq_empty (s := String.ofList cs)
  simpa [nfc, String.ofList_eq_empty_iff] using h

theorem layoutChars_nfcChars (name : List Char) :
    layoutChars (nfcChars name) = nfcChars (layoutChars name) := by
  by_cases h : localeChars name = []
  · have hcomposed : localeChars (nfcChars name) = [] := by
      rw [localeChars_nfcChars, nfcChars_eq_nil, h]
    rw [layoutChars, layoutChars, h, hcomposed]
    rfl
  · have hcomposed : localeChars (nfcChars name) ≠ [] := by
      rw [localeChars_nfcChars, ne_eq, nfcChars_eq_nil]
      exact h
    refine layoutChars_of_append hcomposed ?_
    rw [localeChars_nfcChars, ← nfcChars_append_separator (.inl rfl),
      ← layoutChars_append_localeChars h]

theorem locale_nfc (name : String) : locale (nfc name) = nfc (locale name) := by
  rw [locale, locale, nfc, nfc, String.toList_ofList, String.toList_ofList, localeChars_nfcChars]

theorem layout_nfc (name : String) : layout (nfc name) = nfc (layout name) := by
  rw [layout, layout, nfc, nfc, String.toList_ofList, String.toList_ofList, layoutChars_nfcChars]

end Composition

end Keyboards.LegacyName
