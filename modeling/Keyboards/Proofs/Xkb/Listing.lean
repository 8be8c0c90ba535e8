import Keyboards.Proofs.Text.Headed
import Keyboards.Proofs.Text.Phrases
import Keyboards.Xkb.Rules
import Mathlib.Data.List.TakeWhile

/-! Codes and variants in a rules list are single words. -/

namespace Keyboards.Xkb

open Text

variable {line description name code text : List Char} {block : Block} {l : Layout}
  {lines : List (List Char)} {layouts : List Layout}

/-- A word: not empty, and without white space. -/
def IsWord (s : String) : Prop := s ≠ "" ∧ ∀ c ∈ s.toList, isBlank c = false

theorem isWord_ofList (hne : name ≠ []) (h : ∀ c ∈ name, isBlank c = false) :
    IsWord (String.ofList name) :=
  ⟨by simpa [String.ext_iff] using hne, by simpa using h⟩

/-- A layout whose code and variant are words. -/
structure Layout.WellFormed (l : Layout) : Prop where
  code : IsWord l.code
  variant : ∀ v, l.variant = some v → IsWord v

theorem Layout.WellFormed.filter_variant (h : l.WellFormed) :
    l.variant.filter (· ≠ "") = l.variant := by
  cases hv : l.variant with
  | none => rfl
  | some v => simp [Option.filter, (h.variant v hv).1]

namespace Rules

theorem item?_of_indents {back : List Char} (h : Indents line name back) :
    item? line = (behindBlanks? 1 back).map (name, ·) := by
  obtain ⟨indented, rfl, named, rfl⟩ := indents_iff.1 h
  simp only [item?, decide_eq_false indented, List.isEmpty_eq_false_iff.2 named, Bool.or_false,
    Bool.false_eq_true, if_false]

/-- An item is an indented word with a description behind it. -/
theorem item?_eq_some_iff : item? line = some (name, description) ↔
    ∃ back, Indents line name back ∧ Behind 1 back description := by
  constructor
  · intro h
    rw [item?] at h
    split at h
    next => cases h
    next hn =>
      rw [Bool.or_eq_true, decide_eq_true_eq, List.isEmpty_iff, not_or] at hn
      obtain ⟨d, found, he⟩ := Option.map_eq_some_iff.1 h
      obtain ⟨hname, rfl⟩ := Prod.mk.inj he
      exact ⟨_, indents_iff.2 ⟨hn.1, hname, hname ▸ hn.2, rfl⟩, behindBlanks?_eq_some_iff.1 found⟩
  · rintro ⟨back, hline, behind⟩
    rw [item?_of_indents hline, behindBlanks?_of_behind behind, Option.map_some]

theorem isWord_of_item? (h : item? line = some (name, description)) :
    IsWord (String.ofList name) := by
  obtain ⟨back, ⟨indent, -, -, named, solid, -, -⟩, -⟩ := item?_eq_some_iff.1 h
  exact isWord_ofList named solid

/-- Behind a code and a colon stands a text, or one blank of several. -/
theorem variantOf?_cut (solid : ∀ c ∈ code, isBlank c = false) (coded : code ≠ [])
    (noColon : ':' ∉ code) (rest : List Char) : variantOf? (code ++ ':' :: rest) =
      if (trimStart rest).isEmpty then rest.getLast?.map fun c => (code, [c])
      else some (code, trimStart rest) := by
  have hcode : ∀ c ∈ code, (decide (c ≠ ':') && !isBlank c) = true := by
    intro c hc
    have hne : c ≠ ':' := fun he => noColon (he ▸ hc)
    simp [hne, solid c hc]
  have hfront : (code ++ ':' :: rest).takeWhile (fun c => c ≠ ':' && !isBlank c) = code := by
    rw [List.takeWhile_append_of_pos hcode]
    simp
  have hback : (code ++ ':' :: rest).dropWhile (fun c => c ≠ ':' && !isBlank c) = ':' :: rest := by
    rw [List.dropWhile_append_of_pos hcode]
    simp
  simp only [variantOf?, hfront, hback, List.isEmpty_eq_false_iff.2 coded, Bool.false_eq_true,
    if_false]

/-- A description with a code in front is cut behind the code. -/
theorem exists_cut_of_variantOf? (h : variantOf? description = some (code, text)) :
    code ≠ [] ∧ (∀ c ∈ code, isBlank c = false) ∧ ':' ∉ code ∧
      ∃ rest, description = code ++ ':' :: rest := by
  simp only [variantOf?] at h
  split at h
  next rest hrest =>
    split at h
    · cases h
    next hn =>
      have hcode : code = description.takeWhile fun c => c ≠ ':' && !isBlank c := by
        split at h
        · obtain ⟨c, -, hc⟩ := Option.map_eq_some_iff.1 h
          exact (Prod.mk.inj hc).1.symm
        · exact (Prod.mk.inj (Option.some.inj h)).1.symm
      rw [← hcode] at hn
      have hmem : ∀ c ∈ code, c ≠ ':' ∧ isBlank c = false := by
        intro c hc
        rw [hcode] at hc
        simpa using List.mem_takeWhile_imp hc
      refine ⟨by simpa using hn, fun c hc => (hmem c hc).2, fun hc => (hmem _ hc).1 rfl, rest, ?_⟩
      rw [hcode, ← hrest, List.takeWhile_append_dropWhile]
  · cases h

theorem isWord_of_variantOf? (h : variantOf? description = some (code, text)) :
    IsWord (String.ofList code) := by
  obtain ⟨coded, solid, -, -⟩ := exists_cut_of_variantOf? h
  exact isWord_ofList coded solid

/-- A layout is an item of its block, and a variant is one whose description begins with a code. -/
theorem layout?_eq_some (h : layout? block line = some l) :
    ∃ name d, item? line = some (name, d) ∧
      (block = .layouts ∧ l = ⟨String.ofList name, none, String.ofList d⟩ ∨
        block = .variants ∧ ∃ code text, variantOf? d = some (code, text) ∧
          l = ⟨String.ofList code, some (String.ofList name), String.ofList text⟩) := by
  cases block with
  | other => cases h
  | layouts =>
    obtain ⟨⟨name, d⟩, hitem, rfl⟩ := Option.map_eq_some_iff.1 h
    exact ⟨name, d, hitem, .inl ⟨rfl, rfl⟩⟩
  | variants =>
    obtain ⟨⟨name, d⟩, hitem, h⟩ := Option.bind_eq_some_iff.1 h
    obtain ⟨⟨code, text⟩, hvariant, h⟩ := Option.bind_eq_some_iff.1 h
    exact ⟨name, d, hitem, .inr ⟨rfl, code, text, hvariant, (Option.some.inj h).symm⟩⟩

theorem wellFormed_of_layout? (h : layout? block line = some l) : l.WellFormed := by
  obtain ⟨name, d, hitem, ⟨-, rfl⟩ | ⟨-, code, text, hvariant, rfl⟩⟩ := layout?_eq_some h
  · exact ⟨isWord_of_item? hitem, nofun⟩
  · refine ⟨isWord_of_variantOf? hvariant, ?_⟩
    rintro v ⟨⟩
    exact isWord_of_item? hitem

/-- The layouts are those on lines that are no headers, each in the block of its header. -/
theorem layoutsFrom_eq_filterMap (block : Block) (lines : List (List Char)) :
    layoutsFrom block lines = (headed header? block lines).filterMap fun p => layout? p.1 p.2 := by
  induction lines generalizing block with
  | nil => rfl
  | cons line rest ih =>
    cases hheader : header? line with
    | some next =>
      rw [layoutsFrom, hheader, headed_cons_some hheader]
      exact ih next
    | none =>
      rw [layoutsFrom, hheader, headed_cons_none hheader, List.filterMap_cons, ih]
      cases layout? block line <;> simp

theorem mem_layoutsFrom : l ∈ layoutsFrom block lines ↔
    ∃ b line, (b, line) ∈ headed header? block lines ∧ layout? b line = some l := by
  simp [layoutsFrom_eq_filterMap]

theorem wellFormed_of_mem_layoutsFrom (h : l ∈ layoutsFrom block lines) : l.WellFormed := by
  obtain ⟨b, line, -, hl⟩ := mem_layoutsFrom.1 h
  exact wellFormed_of_layout? hl

/-- Whatever the rules list says, its layouts have words for names. -/
theorem wellFormed_of_read {content : String} (h : read content = .ok layouts) (hl : l ∈ layouts) :
    l.WellFormed := by
  rw [read] at h
  split at h
  · obtain rfl := Except.ok.inj h
    exact wellFormed_of_mem_layoutsFrom hl
  · cases h

end Rules

end Keyboards.Xkb
