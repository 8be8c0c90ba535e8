import Keyboards.Proofs.Catalog.Resolution
import Keyboards.Proofs.Text.Equivalence

/-! What an identifier names does not depend on how its characters are composed. -/

namespace Keyboards.Catalog

open Text (nfc)

variable {c : Catalog} {s t layout locale : String} {us : List Update}

theorem keyOf_nfc (layout locale : String) : keyOf (nfc layout) (nfc locale) = keyOf layout locale := by
  rw [keyOf, keyOf, Text.nfc_nfc, Text.nfc_nfc]

theorem get?_nfc (c : Catalog) (layout locale : String) :
    c.get? (nfc layout) (nfc locale) = c.get? layout locale := by
  rw [get?, get?, keyOf_nfc]

theorem getOrZero_nfc (c : Catalog) (layout locale : String) :
    c.getOrZero (nfc layout) (nfc locale) = c.getOrZero layout locale := by
  rw [getOrZero, getOrZero, get?_nfc]
  simp only [Text.nfc_eq_empty]

theorem containsId_nfc (c : Catalog) (s : String) : c.containsId (nfc s) = c.containsId s := by
  rw [containsId, containsId, Text.nfc_nfc]

theorem getId?_nfc (c : Catalog) (s : String) : c.getId? (nfc s) = c.getId? s := by
  rw [getId?, getId?, Text.nfc_nfc, Text.split_nfc (.inr rfl)]
  cases c.byLegacyId[nfc s]? with
  | some i => rfl
  | none =>
    dsimp only
    -- Composing the pieces leaves their number as it is.
    rcases Text.split '|' s with _ | ⟨layout, _ | ⟨locale, _ | _⟩⟩
    case cons.cons.nil => exact get?_nfc c layout locale
    all_goals rfl

theorem dashReadings_nfc (s : String) :
    dashReadings (nfc s) = (dashReadings s).map fun p => (nfc p.1, nfc p.2) := by
  have hdash : Text.IsSeparator '-' := .inl rfl
  rw [dashReadings, dashReadings, nfc, String.toList_ofList, hdash.cuts_nfcChars, List.map_map,
    List.map_map]
  refine List.map_congr_left fun p _ => ?_
  simp [nfc]

theorem getDashed_nfc (c : Catalog) (s : String) : c.getDashed (nfc s) = c.getDashed s := by
  rw [getDashed, getDashed, dashReadings_nfc, List.map_map]
  simp only [Function.comp_def, getOrZero_nfc]

theorem resolve_nfc (c : Catalog) (s : String) : c.resolve (nfc s) = c.resolve s := by
  rw [resolve, resolve, containsId_nfc, getId?_nfc, getDashed_nfc, Text.split_nfc (.inr rfl)]
  simp only [Text.nfc_eq_empty]
  cases if c.containsId s = true then c.getId? s else none with
  | some k => rfl
  | none =>
    dsimp only
    rcases Text.split '|' s with _ | ⟨layout, _ | ⟨locale, _ | _⟩⟩
    case cons.cons.nil => simp only [List.map_cons, List.map_nil, getOrZero_nfc]
    all_goals rfl

/-- Two spellings of an identifier with one canonical composition name the same, whatever a catalog
holds, and they do so with each way of reading an identifier. -/
theorem resolve_equivalent (c : Catalog) (h : nfc s = nfc t) :
    c.resolve s = c.resolve t ∧ c.getId? s = c.getId? t ∧ c.containsId s = c.containsId t ∧
    c.getDashed s = c.getDashed t := by
  refine ⟨?_, ?_, ?_, ?_⟩
  · rw [← resolve_nfc c s, h, resolve_nfc]
  · rw [← getId?_nfc c s, h, getId?_nfc]
  · rw [← containsId_nfc c s, h, containsId_nfc]
  · rw [← getDashed_nfc c s, h, getDashed_nfc]

namespace Sample

/-- A layout with a locale and one without. -/
def accented : List Update :=
  [.extend [.make "ç" "fr-FR" .primary "system", .make "ç" "" .primary "system"]]

theorem made_accented : ∀ u ∈ accented, ∀ k ∈ u.keyboards, k.Made := by
  simp [accented, Update.keyboards, Keyboard.Made.make]

end Sample

/-- A letter with its mark apart names what the composed letter names, in an old identifier, with a
bar, and in a dash reading that no old identifier has. -/
theorem resolve_equivalent_apart : let c := (after Sample.accented).2
    (nfc "c\u0327-fr-FR" = nfc "ç-fr-FR" ∧ (c.resolve "c\u0327-fr-FR").key = ("ç", "fr-FR")) ∧
    (nfc "c\u0327|fr-FR" = nfc "ç|fr-FR" ∧
      (c.getId? "c\u0327|fr-FR").map (·.key) = some ("ç", "fr-FR")) ∧
    (nfc "c\u0327-" = nfc "ç-" ∧ (c.getDashed "c\u0327-").key = ("ç", "")) := by
  obtain ⟨h, -, hl⟩ := scanned_after Sample.made_accented
  have old : nfc "c\u0327-fr-FR" = nfc "ç-fr-FR" := by decide +kernel
  have barred : nfc "c\u0327|fr-FR" = nfc "ç|fr-FR" := by decide +kernel
  have dashed : nfc "c\u0327-" = nfc "ç-" := by decide +kernel
  refine ⟨⟨old, ?_⟩, ⟨barred, ?_⟩, ⟨dashed, ?_⟩⟩
  · have hid : (after Sample.accented).2.containsId "ç-fr-FR" = true := by
      rw [h.containsId_eq, hl]
      decide +kernel
    rw [(resolve_equivalent _ old).1, h.resolve_eq_getId? (.inl hid), h.getId?_eq, hl]
    decide +kernel
  · rw [(resolve_equivalent _ barred).2.1, h.getId?_eq, hl]
    decide +kernel
  · rw [(resolve_equivalent _ dashed).2.2.2, getDashed]
    simp only [h.getOrZero_eq, h.get?_eq, hl]
    decide +kernel

end Keyboards.Catalog
