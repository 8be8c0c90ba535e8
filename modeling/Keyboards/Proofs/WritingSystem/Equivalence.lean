import Keyboards.Proofs.Catalog.Equivalence
import Keyboards.Proofs.WritingSystem.Names
import Keyboards.WritingSystem

/-! How far the keyboard of an old record depends on how the characters of its name are composed. -/

namespace Keyboards.WritingSystem

open Text (nfc)

variable {c : Catalog} {ws ws' : WritingSystem} {name : String} {us : List Update}

/-- What the obsolete fields name by the key of a keyboard or by its old identifier. -/
def keyed? (c : Catalog) (ws : WritingSystem) : Option Keyboard :=
  ((given ws.windowsId).bind Locale.readWindowsId?).bind
      (legacyById? c · (given ws.keyboardName)) <|>
    (given ws.keyboardName).bind fun name =>
      (if c.containsId name then c.getId? name else none) <|>
        c.get? (LegacyName.layout name) (LegacyName.locale name)

/-- What they name by a layout alone: the name itself, else the layout in front of its locale. -/
def scanned? (c : Catalog) (ws : WritingSystem) : Option Keyboard :=
  (given ws.keyboardName).bind fun name =>
    c.find? (·.layout = name) <|> c.find? (·.layout = LegacyName.layout name)

theorem legacy?_eq (c : Catalog) (ws : WritingSystem) :
    ws.legacy? c = (keyed? c ws <|> scanned? c ws) := by
  rw [legacy?, keyed?, scanned?]
  cases given ws.keyboardName with
  | none => simp
  | some name => simp [legacyByName?, Option.or_assoc]

theorem given_map_nfc (field : Option String) : (given field).map nfc = given (field.map nfc) := by
  cases field with
  | none => rfl
  | some s => by_cases hs : s = "" <;> simp [given, Option.filter, hs, Text.nfc_eq_empty]

theorem legacyById?_nfc (c : Catalog) (id : Nat) (field : Option String) :
    legacyById? c id (field.map nfc) = legacyById? c id field := by
  cases field with
  | none => rfl
  | some name =>
    have hget : c.get? (nfc name) = c.get? name := by
      funext locale
      rw [Catalog.get?, Catalog.get?, Catalog.keyOf, Text.nfc_nfc]
      rfl
    rw [Option.map_some, legacyById?, legacyById?, hget]

/-- Keys and identifiers are compared in canonical composition. -/
theorem keyed?_equivalent (id : ws.windowsId = ws'.windowsId)
    (names : ws.keyboardName.map nfc = ws'.keyboardName.map nfc) : keyed? c ws = keyed? c ws' := by
  suffices hcomposed : ∀ ws : WritingSystem,
      keyed? c { ws with keyboardName := ws.keyboardName.map nfc } = keyed? c ws by
    rw [← hcomposed ws, ← hcomposed ws', keyed?, keyed?, id, names]
  intro ws
  rw [keyed?, keyed?]
  simp only [← given_map_nfc, legacyById?_nfc]
  cases given ws.keyboardName with
  | none => rfl
  | some name =>
    simp only [Option.map_some, Option.bind_some, Catalog.containsId_nfc, Catalog.getId?_nfc,
      LegacyName.layout_nfc, LegacyName.locale_nfc, Catalog.get?_nfc]

section Scan

variable (composed : ∀ k ∈ c.toList, k.Composed)
include composed

/-- Layouts are composed, so no other text is one. -/
theorem find?_layout (name : String) :
    c.find? (·.layout = name) = if nfc name = name then c.find? (·.layout = name) else none := by
  split_ifs with hname
  · rfl
  · rw [Catalog.find?, List.find?_eq_none]
    intro k hk
    rw [decide_eq_true_eq]
    rintro rfl
    exact hname (composed k hk).1

theorem scanned?_eq (ws : WritingSystem) :
    scanned? c ws = (given ws.keyboardName).bind fun name =>
      (if nfc name = name then c.find? (·.layout = name) else none) <|>
        if nfc (LegacyName.layout name) = LegacyName.layout name then
          c.find? (·.layout = LegacyName.layout name)
        else none := by
  rw [scanned?]
  simp only [← find?_layout composed]

end Scan

/-- Two records with the same numeric identifier and with names of one canonical composition name
the same keyboard by its key or by its old identifier. They name the same keyboard altogether if
there is one, or if the scan of the layouts comes to the same, which takes the spelling of a name
as it is: a name, or the layout in front of its locale, is found only if it is composed. -/
theorem legacy?_equivalent (made : ∀ u ∈ us, ∀ k ∈ u.keyboards, k.Made)
    (id : ws.windowsId = ws'.windowsId)
    (names : ws.keyboardName.map nfc = ws'.keyboardName.map nfc) :
    let c := (Catalog.after us).2
    keyed? c ws = keyed? c ws' ∧
    (ws.legacy? c = ws'.legacy? c ↔ (keyed? c ws).isSome = true ∨ scanned? c ws = scanned? c ws') ∧
    ∀ ws : WritingSystem, scanned? c ws = (given ws.keyboardName).bind fun name =>
      (if nfc name = name then c.find? (·.layout = name) else none) <|>
        if nfc (LegacyName.layout name) = LegacyName.layout name then
          c.find? (·.layout = LegacyName.layout name)
        else none := by
  have hkeyed : keyed? (Catalog.after us).2 ws = keyed? (Catalog.after us).2 ws' :=
    keyed?_equivalent id names
  refine ⟨hkeyed, ?_, scanned?_eq (Catalog.scanned_after made).1.composed⟩
  rw [legacy?_eq, legacy?_eq, ← hkeyed]
  cases keyed? (Catalog.after us).2 ws with
  | some k => simp
  | none => simp

namespace Sample

/-- A catalog with a layout whose letter can be written with its mark apart. -/
def french : List Update := [.add (.make "ç" "fr-FR" .primary "system")]

theorem made_french : ∀ u ∈ french, ∀ k ∈ u.keyboards, k.Made := by
  simp [french, Update.keyboards, Keyboard.Made.make]

end Sample

/-- With its numeric identifier a record finds the layout in either spelling. -/
theorem legacy?_equivalent_numbered :
    let c := (Catalog.after Sample.french).2
    let apart : WritingSystem := ⟨"fr", some "1036", some "c\u0327", none⟩
    let composed : WritingSystem := ⟨"fr", some "1036", some "ç", none⟩
    apart.keyboardName.map nfc = composed.keyboardName.map nfc ∧
    apart.legacy? c = composed.legacy? c ∧ (keyed? c apart).map (·.key) = some ("ç", "fr-FR") := by
  intro c apart composed
  have names : apart.keyboardName.map nfc = composed.keyboardName.map nfc := by decide +kernel
  obtain ⟨h, -, hl⟩ := Catalog.scanned_after Sample.made_french
  have hfound : (keyed? c apart).map (·.key) = some ("ç", "fr-FR") := by
    have hget (layout : String) : (Catalog.after Sample.french).2.get? layout =
        fun locale => Listing.get? layout locale (Listing.after Sample.french).2 := by
      funext locale
      rw [h.get?_eq, hl]
    simp only [c, keyed?, legacyById?, h.containsId_eq, h.getId?_eq, hget, hl]
    decide +kernel
  have hsome : (keyed? c apart).isSome = true := by
    rw [← Option.isSome_map, hfound]
    rfl
  have id : apart.windowsId = composed.windowsId := rfl
  have hsame := legacy?_equivalent Sample.made_french id names
  exact ⟨names, hsame.2.1.2 (.inl hsome), hfound⟩

/-- It is not so that the spelling of a name never matters: a layout is found by its bare name in
one spelling and not in the other. -/
theorem legacy?_not_equivalent : ¬ ∀ (us : List Update) (ws ws' : WritingSystem),
    (∀ u ∈ us, ∀ k ∈ u.keyboards, k.Made) → ws.windowsId = ws'.windowsId →
    ws.keyboardName.map nfc = ws'.keyboardName.map nfc →
    ws.legacy? (Catalog.after us).2 = ws'.legacy? (Catalog.after us).2 := by
  intro always
  have hsame := always Sample.french ⟨"fr", none, some "ç", none⟩
    ⟨"fr", none, some "c\u0327", none⟩ Sample.made_french rfl (by decide +kernel)
  obtain ⟨h, -, hl⟩ := Catalog.scanned_after Sample.made_french
  simp only [legacy?_eq, keyed?, scanned?, legacyById?, h.containsId_eq, h.getId?_eq, h.get?_eq,
    Catalog.find?, hl] at hsame
  exact absurd hsame (by decide +kernel)

end Keyboards.WritingSystem
