import Keyboards.Proofs.Catalog.Resolution
import Keyboards.Proofs.WritingSystem.Equivalence
import Keyboards.Proofs.WritingSystem.Parts
import Mathlib.Data.List.Find

/-! Which of the keyboards on offer an old record names. -/

namespace Keyboards

open Text (nfc)

namespace Listing

/-- By numeric identifier: without a name the first primary keyboard of that language, with one the
keyboard of that name in the locale of the identifier. -/
def legacyById? (id : Nat) (name : Option String) (ks : List Keyboard) : Option Keyboard :=
  match name with
  | none => ks.find? fun k => k.category = some .primary && k.lcid = some id
  | some name => (Locale.ofWindowsId? id).bind fun locale => get? name locale ks

/-- By name: the first keyboard with the old identifier, in whatever composition, else the first one
whose layout is the name, else the first one whose layout is that of the name. -/
def legacyByName? (name : String) (ks : List Keyboard) : Option Keyboard :=
  (ks.find? fun k => nfc k.legacyId = nfc name) <|>
    (ks.find? fun k => k.layout = name) <|>
    ks.find? fun k => k.layout = LegacyName.layout name

/-- The keyboard that the obsolete fields name, if any. The identifier is tried before the name. A
field that is missing names nothing, and neither does one that is there with an empty text. -/
def legacy? (ws : WritingSystem) (ks : List Keyboard) : Option Keyboard :=
  let name := if ws.keyboardName = some "" then none else ws.keyboardName
  let id := if ws.windowsId = some "" then none else ws.windowsId
  (id.bind Locale.readWindowsId?).bind (legacyById? · name ks) <|> name.bind (legacyByName? · ks)

end Listing

namespace Keyboard

/-- The old identifier in canonical composition goes by the key in canonical composition. -/
theorem nfc_joinId (layout locale : String) :
    nfc (joinId layout locale) = joinId (nfc layout) (nfc locale) := by
  rw [joinId, joinId]
  split_ifs with h h' h'
  · rfl
  · exact (h' (Text.nfc_eq_empty.2 h)).elim
  · exact (h (Text.nfc_eq_empty.1 h')).elim
  · exact Text.nfc_append_dash layout locale

end Keyboard

namespace Catalog

variable {c : Catalog} {k : Keyboard} {name : String} {us : List Update}

/-- A keyboard under the layout and the locale of a name has that name for its old identifier. -/
theorem Scanned.containsId_of_get? (h : Scanned c)
    (hk : c.get? (LegacyName.layout name) (LegacyName.locale name) = some k) :
    c.containsId name = true := by
  obtain ⟨hmem, hkey⟩ := h.mem_of_get? hk
  obtain ⟨hlayout, hlocale⟩ := Prod.mk.inj hkey
  refine h.containsId_iff.2 ⟨k, hmem, ?_⟩
  rw [Keyboard.legacyId, hlayout, hlocale, ← Keyboard.nfc_joinId,
    LegacyName.joinId_layout_locale]

/-- What is looked up by old identifier, if anything has it, is the first that has it. -/
theorem Scanned.getId?_of_containsId (h : Scanned c) (name : String) :
    (if c.containsId name then c.getId? name else none) =
      c.toList.find? fun k => nfc k.legacyId = nfc name := by
  have hscan : (c.toList.find? fun k => nfc k.legacyId = nfc name) =
      c.toList.find? fun k => k.legacyId = nfc name :=
    List.find?_congr fun k hk => by rw [(h.composed k hk).legacyId]
  rw [hscan]
  by_cases hid : c.containsId name = true
  · obtain ⟨first, hfirst, hget⟩ := h.getId?_of_exists (h.containsId_iff.1 hid)
    rw [if_pos hid, hget, hfirst]
  · rw [if_neg hid, eq_comm, List.find?_eq_none]
    intro k hk hsame
    exact hid (h.containsId_iff.2 ⟨k, hk, of_decide_eq_true hsame⟩)

theorem Scanned.legacyByName?_eq (h : Scanned c) (name : String) :
    WritingSystem.legacyByName? c name = Listing.legacyByName? name c.toList := by
  rw [WritingSystem.legacyByName?, Listing.legacyByName?, ← h.getId?_of_containsId name]
  -- the lookup of layout and locale is passed over where it fails, and idle where it does not
  cases hget : c.get? (LegacyName.layout name) (LegacyName.locale name) with
  | none => simp [find?]
  | some k =>
    have hid := h.containsId_of_get? hget
    obtain ⟨first, -, hfirst⟩ := h.getId?_of_exists (h.containsId_iff.1 hid)
    simp [hid, hfirst]

theorem Scanned.legacyById?_eq (h : Scanned c) (id : Nat) (name : Option String) :
    WritingSystem.legacyById? c id name = Listing.legacyById? id name c.toList := by
  cases name with
  | none => rfl
  | some name =>
    have hget : c.get? name = fun locale => Listing.get? name locale c.toList := by
      funext locale
      exact h.get?_eq name locale
    rw [WritingSystem.legacyById?, hget]
    rfl

end Catalog

namespace WritingSystem

variable {us : List Update}

/-- A field is given unless its text is empty. -/
theorem given_eq (field : Option String) : given field = if field = some "" then none else field := by
  cases field with
  | none => rfl
  | some text => simp [given, Option.filter_some]

/-- In a catalog that updates made, an old record names what a scan of the keyboards comes to, the
first one first. To look up the layout and the locale of the name adds nothing: where that finds a
keyboard, the first one that has the name for its old identifier was found before. -/
theorem legacy?_after (made : ∀ u ∈ us, ∀ k ∈ u.keyboards, k.Made) (ws : WritingSystem) :
    let c := (Catalog.after us).2
    ws.legacy? c = Listing.legacy? ws c.toList ∧
    ∀ name k, c.get? (LegacyName.layout name) (LegacyName.locale name) = some k →
      c.containsId name = true ∧ ∃ first,
        (c.toList.find? fun k => nfc k.legacyId = nfc name) = some first ∧
          c.getId? name = some first := by
  have h : Catalog.Scanned (Catalog.after us).2 := (Catalog.scanned_after made).1
  refine ⟨?_, ?_⟩
  · have hname : legacyByName? (Catalog.after us).2 =
        fun name => Listing.legacyByName? name (Catalog.after us).2.toList :=
      funext h.legacyByName?_eq
    have hid : legacyById? (Catalog.after us).2 =
        fun id name => Listing.legacyById? id name (Catalog.after us).2.toList :=
      funext fun id => funext (h.legacyById?_eq id)
    rw [legacy?, hname, hid, given_eq, given_eq]
    rfl
  · intro name k hget
    have hid := h.containsId_of_get? hget
    obtain ⟨first, -, hfirst⟩ := h.getId?_of_exists (h.containsId_iff.1 hid)
    have hscan := h.getId?_of_containsId name
    rw [if_pos hid, hfirst] at hscan
    exact ⟨hid, first, hscan.symm, hfirst⟩

/-- Two keyboards share an old identifier. The first of them is named, and not the one that has the
layout and the locale of the name. With an empty name beside it, a numeric identifier counts as it
does without one: it names the keyboard that is filed under it. -/
theorem legacy?_after_shared : ∃ us : List Update, (∀ u ∈ us, ∀ k ∈ u.keyboards, k.Made) ∧
    let c := (Catalog.after us).2
    ((⟨"x", none, some "a-b-c", none⟩ : WritingSystem).legacy? c).map (·.key) =
      some ("a-b", "c") ∧
    (c.get? (LegacyName.layout "a-b-c") (LegacyName.locale "a-b-c")).map (·.key) =
      some ("a", "b-c") ∧
    c.containsId "a-b-c" = true ∧
    ((⟨"x", some "1033", some "", none⟩ : WritingSystem).legacy? c).map (·.key) =
      some ("us", "en-US") := by
  let american : Keyboard := { Keyboard.make "us" "en-US" .primary "system" with
    language := some (.ofLocale "en-US" "") }
  let us : List Update := [.extend [.make "a-b" "c" .primary "system",
    .make "a" "b-c" .primary "system", american]]
  have made : ∀ u ∈ us, ∀ k ∈ u.keyboards, k.Made := by
    simp only [us, Update.keyboards, List.mem_cons, List.not_mem_nil, or_false, forall_eq,
      forall_eq_or_imp]
    exact ⟨.make .., .make .., (Keyboard.Made.make ..).described _ _ _⟩
  obtain ⟨h, -, hl⟩ := Catalog.scanned_after made
  obtain ⟨hlegacy, hadds⟩ := legacy?_after made ⟨"x", none, some "a-b-c", none⟩
  have hget : (Catalog.after us).2.get? (LegacyName.layout "a-b-c") (LegacyName.locale "a-b-c") =
      some (.make "a" "b-c" .primary "system") := by
    rw [h.get?_eq, hl]
    decide +kernel
  refine ⟨us, made, ?_, by rw [hget]; decide +kernel, (hadds _ _ hget).1, ?_⟩
  · rw [hlegacy, hl]
    decide +kernel
  · rw [(legacy?_after made _).1, hl]
    decide +kernel

end WritingSystem

end Keyboards
