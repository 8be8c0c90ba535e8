import Keyboards.Keyboard
import Keyboards.Proofs.WritingSystem.Names

/-! An old keyboard name is cut into a layout and a locale with nothing lost, and the cut falls
between two characters where it is made by counting bytes. -/

namespace Keyboards

namespace Text

/-- What stands in front of the last bytes of a text. There is no such text if it has fewer bytes
than that, or if the cut would go through a character. -/
def beforeBytes? (s : String) (n : Nat) : Option String :=
  if h : n ≤ s.utf8ByteSize ∧ (⟨s.utf8ByteSize - n⟩ : String.Pos.Raw).IsValid s then
    some (s.sliceTo (s.pos ⟨s.utf8ByteSize - n⟩ h.2)).copy
  else none

theorem beforeBytes?_append (front behind : String) :
    beforeBytes? (front ++ behind) behind.utf8ByteSize = some front := by
  have hend : (⟨(front ++ behind).utf8ByteSize - behind.utf8ByteSize⟩ : String.Pos.Raw) =
      front.rawEndPos := by
    simp [String.Pos.Raw.ext_iff]
  have hroom : behind.utf8ByteSize ≤ (front ++ behind).utf8ByteSize := by simp
  have hvalid : (⟨(front ++ behind).utf8ByteSize - behind.utf8ByteSize⟩ : String.Pos.Raw).IsValid
      (front ++ behind) :=
    String.Pos.Raw.isValid_iff_exists_append.2 ⟨front, behind, rfl, hend⟩
  have hsplits : ((front ++ behind).pos _ hvalid).Splits front behind := ⟨rfl, hend⟩
  rw [beforeBytes?, dif_pos ⟨hroom, hvalid⟩]
  exact congrArg some (String.Pos.Splits.eq_left (String.Pos.splits _) hsplits)

end Text

namespace LegacyName

open Text

variable {name front back : List Char} {xs : List (List Char)}

theorem fields_joinDashes (hne : xs ≠ []) (h : ∀ x ∈ xs, '-' ∉ x) :
    fields '-' (joinDashes xs) = xs := by
  rw [fields_eq_splitOn, joinDashes, List.splitOn_intercalate _ h hne]

/-- A locale has the last two segments of a name with two dashes, and otherwise one. -/
theorem length_fields_localeChars (name : List Char) :
    (fields '-' (localeChars name)).length = max 1 (min 2 (name.count '-')) := by
  obtain ⟨k, -, hlocale, hlength⟩ := exists_localeChars_eq name
  rw [hlocale, ← hlength]
  cases hdrop : (fields '-' name).drop k with
  | nil => rfl
  | cons x xs =>
    have hplain : ∀ y ∈ x :: xs, '-' ∉ y := by
      intro y hy
      rw [← hdrop] at hy
      exact (mem_fields (List.mem_of_mem_drop hy)).1
    rw [fields_joinDashes (List.cons_ne_nil x xs) hplain, List.length_cons]
    omega

theorem localeChars_of_not_mem (h : '-' ∉ name) : localeChars name = [] := by
  rw [localeChars, fields_of_not_mem h]
  rfl

theorem localeChars_append (hfront : '-' ∉ front) (hback : '-' ∉ back) :
    localeChars (front ++ '-' :: back) = back := by
  rw [localeChars, fields_append hfront, fields_of_not_mem hback]
  simp [joinDashes]

/-- With a second dash the locale has two segments, and so a dash of its own. -/
theorem localeChars_ne_nil (hfront : '-' ∉ front) (hback : '-' ∈ back) :
    localeChars (front ++ '-' :: back) ≠ [] := by
  intro hnil
  have hlength := length_fields_localeChars (front ++ '-' :: back)
  rw [hnil, count_append_cons hfront back] at hlength
  have hone : (fields '-' []).length = 1 := rfl
  have hpos := List.count_pos_iff.2 hback
  omega

/-- A name is without a locale if it has no dash, or one at its end and no other. -/
theorem localeChars_eq_nil_iff :
    localeChars name = [] ↔
      '-' ∉ name ∨ name.count '-' = 1 ∧ name.getLast? = some '-' := by
  by_cases hdash : '-' ∈ name
  · obtain ⟨front, back, rfl, hfront⟩ := List.eq_append_cons_of_mem hdash
    rw [or_iff_right (not_not_intro hdash), count_append_cons hfront back]
    by_cases hback : '-' ∈ back
    · refine iff_of_false (localeChars_ne_nil hfront hback) ?_
      rintro ⟨hone, -⟩
      have hpos := List.count_pos_iff.2 hback
      omega
    · rw [localeChars_append hfront hback, List.count_eq_zero_of_not_mem hback]
      constructor
      · rintro rfl
        simp
      · rintro ⟨-, hlast⟩
        by_contra hne
        rw [List.append_cons, List.getLast?_append_of_ne_nil _ hne] at hlast
        exact hback (List.mem_of_getLast? hlast)
  · exact iff_of_true (localeChars_of_not_mem hdash) (.inl hdash)

/-- A name is its layout, and behind a dash its locale if it has one. -/
theorem joinId_layout_locale (name : String) :
    Keyboard.joinId (layout name) (locale name) = name := by
  rw [Keyboard.joinId]
  split_ifs with h
  · have hlocale : localeChars name.toList = [] := String.ofList_eq_empty_iff.1 h
    rw [layout, layoutChars, hlocale]
    exact String.ofList_toList
  · have hlocale : localeChars name.toList ≠ [] := fun he => h (String.ofList_eq_empty_iff.2 he)
    rw [← String.toList_inj]
    simpa [layout, locale] using (layoutChars_append_localeChars hlocale).symm

/-- The layout, where it is found by counting the bytes of the locale and of the dash. -/
def layoutByBytes? (name : String) : Option String :=
  if locale name = "" then some name
  else beforeBytes? name ((locale name).utf8ByteSize + 1)

theorem layoutByBytes?_eq (name : String) : layoutByBytes? name = some (layout name) := by
  have hjoin := joinId_layout_locale name
  rw [Keyboard.joinId] at hjoin
  rw [layoutByBytes?]
  split_ifs at hjoin ⊢ with hlocale
  · rw [hjoin]
  · have hcut := beforeBytes?_append (layout name) ("-" ++ locale name)
    rw [← String.append_assoc, hjoin, String.utf8ByteSize_append, Nat.add_comm] at hcut
    exact hcut

/-- Every name comes apart without loss. To cut the layout off by counting bytes never fails, layout
and locale together are the name again, the locale has at most two segments, and both of them as
soon as the name has two dashes; it is empty only where the name has no dash, or none but one at the
end. -/
theorem layout_locale_exact (name : String) :
    layoutByBytes? name = some (layout name) ∧
    Keyboard.joinId (layout name) (locale name) = name ∧
    (split '-' (locale name)).length ≤ 2 ∧
    ((split '-' (locale name)).length = 2 ↔ 2 ≤ name.toList.count '-') ∧
    (locale name = "" ↔ '-' ∉ name.toList ∨
      name.toList.count '-' = 1 ∧ name.toList.getLast? = some '-') := by
  have hlength : (split '-' (locale name)).length = max 1 (min 2 (name.toList.count '-')) := by
    rw [split, List.length_map, locale, String.toList_ofList, length_fields_localeChars]
  refine ⟨layoutByBytes?_eq name, joinId_layout_locale name, by omega, by omega, ?_⟩
  rw [locale, String.ofList_eq_empty_iff, localeChars_eq_nil_iff]

example : layout "ç-–-fr-FR" = "ç-–" ∧ locale "ç--" = "-" ∧ locale "ç-" = "" := by decide

end LegacyName

end Keyboards
