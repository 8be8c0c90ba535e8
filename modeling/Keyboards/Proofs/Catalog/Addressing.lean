import Keyboards.Proofs.Catalog.Resolution
import Keyboards.Proofs.Text.Lines

/-! Every keyboard of a catalog stays in reach: with a bar always, by its old identifier as long as
no earlier keyboard has the same. -/

namespace Keyboards

open Text (nfc)

namespace Text

variable {a b : String}

theorem split_bar (ha : '|' ∉ a.toList) (hb : '|' ∉ b.toList) :
    split '|' (a ++ "|" ++ b) = [a, b] := by
  have hbar : (a ++ "|" ++ b).toList = a.toList ++ '|' :: b.toList := by simp
  rw [split, hbar, fields_append ha, fields_of_not_mem hb]
  simp

theorem count_bar (ha : '|' ∉ a.toList) (hb : '|' ∉ b.toList) :
    (a ++ "|" ++ b).toList.count '|' = 1 :=
  split_eq_pair (split_bar ha hb)

end Text

namespace Keyboard

/-- Neither layout nor locale has a bar in it. -/
def Unbarred (k : Keyboard) : Prop := '|' ∉ k.layout.toList ∧ '|' ∉ k.locale.toList

instance (k : Keyboard) : Decidable k.Unbarred := inferInstanceAs (Decidable (_ ∧ _))

theorem Unbarred.legacyId {k : Keyboard} (h : k.Unbarred) : '|' ∉ k.legacyId.toList := by
  obtain ⟨hlayout, hlocale⟩ := h
  rw [Keyboard.legacyId, joinId]
  split_ifs with hempty
  · exact hlayout
  · intro hbar
    simp only [String.toList_append, List.mem_append] at hbar
    rcases hbar with (hbar | hbar) | hbar
    · exact hlayout hbar
    · exact absurd hbar (by decide)
    · exact hlocale hbar

end Keyboard

namespace Catalog

variable {c : Catalog} {k : Keyboard} {us : List Update} {i : Nat}

/-- Among keyboards without a bar no old identifier hides a text with one. -/
theorem Scanned.not_containsId_bar (h : Scanned c) (unbarred : ∀ l ∈ c.toList, l.Unbarred)
    (layout locale : String) : c.containsId (layout ++ "|" ++ locale) = false := by
  rw [← Bool.not_eq_true, h.containsId_iff, Text.nfc_append_bar]
  rintro ⟨l, hl, hid⟩
  apply (unbarred l hl).legacyId
  rw [hid]
  simp

theorem Scanned.resolve_bar (h : Scanned c) (unbarred : ∀ l ∈ c.toList, l.Unbarred)
    (hk : k ∈ c.toList) : c.resolve (k.layout ++ "|" ++ k.locale) = k := by
  obtain ⟨hlayout, hlocale⟩ := unbarred k hk
  have hid := h.not_containsId_bar unbarred k.layout k.locale
  have hget : c.getId? (k.layout ++ "|" ++ k.locale) = some k := by
    rw [getId?_of_not_containsId hid, Text.split_bar hlayout hlocale]
    exact get?_of_mem h.toIndexed hk
  rw [h.resolve_eq_getId? (.inr (Text.count_bar hlayout hlocale)), hget]
  rfl

theorem Scanned.resolve_legacyId (h : Scanned c) (hk : k ∈ c.toList) :
    c.toList.find? (·.legacyId = k.legacyId) = some (c.resolve k.legacyId) := by
  have hown : nfc k.legacyId = k.legacyId := (h.composed k hk).legacyId
  have hsome : ∃ l ∈ c.toList, l.legacyId = nfc k.legacyId := ⟨k, hk, hown.symm⟩
  obtain ⟨first, hfirst, hget⟩ := h.getId?_of_exists hsome
  rw [h.resolve_eq_getId? (.inl (h.containsId_iff.2 hsome)), hget]
  rw [hown] at hfirst
  exact hfirst

/-- The position of a keyboard is its own. -/
theorem Scanned.position_unique (h : Scanned c) {j : Nat} (hi : c.toList[i]? = some k)
    (hj : c.toList[j]? = some k) : i = j := by
  have hatI := (h.getElem?_byKey k.key i).2 ⟨k, hi, rfl⟩
  have hatJ := (h.getElem?_byKey k.key j).2 ⟨k, hj, rfl⟩
  rw [hatI, Option.some.injEq] at hatJ
  exact hatJ

/-- The first keyboard with an old identifier is the one in front of which nobody has it. -/
theorem Scanned.find?_legacyId_iff (h : Scanned c) (hi : c.toList[i]? = some k) :
    c.toList.find? (·.legacyId = k.legacyId) = some k ↔
      ∀ n < i, ∀ l, c.toList[n]? = some l → l.legacyId ≠ k.legacyId := by
  rw [List.find?_eq_some_iff_getElem]
  constructor
  · rintro ⟨-, j, hj, hk, hbefore⟩ n hn l hl hsame
    have hij : i = j := h.position_unique hi (by rw [List.getElem?_eq_getElem hj, hk])
    subst hij
    obtain ⟨hlt, rfl⟩ := List.getElem?_eq_some_iff.1 hl
    have hother := hbefore n hn
    simp [hsame] at hother
  · intro hbefore
    obtain ⟨hlt, hk⟩ := List.getElem?_eq_some_iff.1 hi
    refine ⟨by simp, i, hlt, hk, ?_⟩
    intro n hn
    have hother := hbefore n hn _ (List.getElem?_eq_getElem (by omega))
    simpa using hother

/-- In a catalog that updates made, a keyboard at any position is what its layout and locale with a
bar in between resolve to, if no keyboard has a bar of its own. Its old identifier resolves to the
first keyboard that has it, which is this one exactly if no keyboard in front of it has it. -/
theorem resolve_registered (made : ∀ u ∈ us, ∀ k ∈ u.keyboards, k.Made)
    (placed : (after us).2.toList[i]? = some k) :
    let c := (after us).2
    ((∀ l ∈ c.toList, l.Unbarred) → c.resolve (k.layout ++ "|" ++ k.locale) = k) ∧
    c.toList.find? (·.legacyId = k.legacyId) = some (c.resolve k.legacyId) ∧
    (c.resolve k.legacyId = k ↔
      ∀ n < i, ∀ l, c.toList[n]? = some l → l.legacyId ≠ k.legacyId) := by
  have h : Scanned (after us).2 := (scanned_after made).1
  have hk : k ∈ (after us).2.toList := List.mem_of_getElem? placed
  have hfirst := h.resolve_legacyId hk
  refine ⟨fun unbarred => h.resolve_bar unbarred hk, hfirst, ?_⟩
  rw [← h.find?_legacyId_iff placed, hfirst, Option.some.injEq]

/-- The second of two keyboards with one old identifier is in reach with a bar only. -/
theorem resolve_registered_shared : ∃ (us : List Update) (k l : Keyboard),
    (∀ u ∈ us, ∀ k ∈ u.keyboards, k.Made) ∧ (after us).2.toList = [k, l] ∧ k ≠ l ∧
    k.legacyId = l.legacyId ∧ (after us).2.resolve "a|b-c" = l ∧
    (after us).2.resolve "a-b-c" ≠ l := by
  let k := Keyboard.make "a-b" "c" .primary "system"
  let l := Keyboard.make "a" "b-c" .primary "system"
  let us : List Update := [.extend [k, l]]
  have made : ∀ u ∈ us, ∀ k ∈ u.keyboards, k.Made := by
    simp [us, k, l, Update.keyboards, Keyboard.Made.make]
  have hl : (after us).2.toList = [k, l] := by
    rw [(scanned_after made).2.2]
    decide +kernel
  have hplaced : (after us).2.toList[1]? = some l := by
    rw [hl]
    rfl
  have hshared : k.legacyId = l.legacyId := by decide +kernel
  have hlayout : l.layout = "a" := by decide +kernel
  have hlocale : l.locale = "b-c" := by decide +kernel
  have hold : l.legacyId = "a-b-c" := by decide +kernel
  obtain ⟨hbar, -, howner⟩ := resolve_registered made hplaced
  rw [hlayout, hlocale] at hbar
  rw [hold] at howner
  refine ⟨us, k, l, made, hl, by decide +kernel, hshared, ?_, ?_⟩
  · apply hbar
    rw [hl]
    decide +kernel
  · intro hown
    exact howner.1 hown 0 (by omega) k (by rw [hl]; rfl) (hshared.trans hold)

end Catalog

end Keyboards
