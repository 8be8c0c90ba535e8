import Keyboards.Proofs.Text.Composition
import Keyboards.Proofs.Text.Cuts

/-! Texts with one canonical composition come apart at separators into pieces with one canonical
composition. -/

namespace Keyboards.Text

variable {n : Nat} {c d : Char} {cs : List Char}

/-- Nothing is taken apart into a separator. -/
theorem separators_unmade : (parts.all fun p =>
    p.2.1 ≠ 0x2D && p.2.1 ≠ 0x7C && !p.2.2.contains 0x2D && !p.2.2.contains 0x7C) = true := by
  decide +kernel

theorem eq_of_mem_expand {depth m : Nat} (hn : n = 0x2D ∨ n = 0x7C) (h : n ∈ expand depth m) :
    m = n := by
  induction depth generalizing m with
  | zero => exact (List.mem_singleton.1 h).symm
  | succ depth ih =>
    rw [expand_succ] at h
    cases hp : part? m with
    | none =>
      rw [hp] at h
      exact (List.mem_singleton.1 h).symm
    | some p =>
      obtain ⟨a, rest⟩ := p
      have hparts := List.all_eq_true.1 separators_unmade _ (mem_parts_of_part? hp)
      simp only [ne_eq, Bool.and_eq_true, decide_eq_true_eq, Bool.not_eq_true',
        List.contains_eq_mem, decide_eq_false_iff_not] at hparts
      obtain ⟨⟨hfirst, hdash⟩, hbar⟩ := hparts
      rw [hp] at h
      rcases List.mem_append.1 h with h | h
      · have ha := ih h
        omega
      · rcases hn with rfl | rfl
        · exact absurd h hdash
        · exact absurd h hbar

/-- A separator comes from itself alone. -/
theorem IsSeparator.eq_of_mem_decompose (h : IsSeparator d) (hd : d ∈ Text.decompose c) :
    c = d := by
  have hn : d.toNat = 0x2D ∨ d.toNat = 0x7C := by
    rcases h with rfl | rfl
    · exact .inl rfl
    · exact .inr rfl
  cases hc : isSyllable c.toNat with
  | false =>
    rw [decompose_eq_expand hc] at hd
    obtain ⟨m, hm, rfl⟩ := List.mem_map.1 hd
    by_cases hvalid : m.isValidChar
    · rw [toNat_ofNat hvalid] at hn
      rw [← eq_of_mem_expand hn hm, Char.ofNat_toNat]
    · rw [ofNat_of_not_isValidChar hvalid] at hn
      exact absurd hn (by decide)
  | true =>
    -- A syllable is made of letters of its own block.
    rw [decompose_syllable hc] at hd
    obtain ⟨m, hm, rfl⟩ := List.mem_map.1 hd
    simp only [isSyllable, Bool.and_eq_true, decide_eq_true_eq] at hc
    have hbounds : 0x1100 ≤ m ∧ m < 0x11C3 := by
      simp only [splitSyllable, List.mem_append, List.mem_cons, List.not_mem_nil, or_false] at hm
      split_ifs at hm <;> simp at hm <;> omega
    rw [toNat_ofNat (.inl (by omega))] at hn
    omega

/-- A text is composed without a separator coming or going. -/
theorem IsSeparator.mem_nfcChars (h : IsSeparator d) : d ∈ nfcChars cs ↔ d ∈ cs := by
  have hmem : ∀ ds, d ∈ nfdChars ds ↔ d ∈ ds := by
    intro ds
    rw [nfdChars, (reorder_perm _).mem_iff, List.mem_flatMap]
    constructor
    · rintro ⟨c, hc, hd⟩
      rw [← h.eq_of_mem_decompose hd]
      exact hc
    · intro hd
      exact ⟨d, hd, by rw [h.decompose]; exact List.mem_singleton_self d⟩
  rw [← hmem, nfdChars_nfcChars, hmem]

/-- To cut a text and compose the pieces is to cut the composed text. -/
theorem IsSeparator.fields_nfcChars (h : IsSeparator d) (cs : List Char) :
    fields d (nfcChars cs) = (fields d cs).map nfcChars := by
  induction cs using cutting_induction (d := d) with
  | whole cs hd =>
    rw [fields_of_not_mem hd, fields_of_not_mem (mt h.mem_nfcChars.1 hd), List.map_singleton]
  | cut front rest hd ih =>
    rw [nfcChars_append_separator h, fields_append hd, fields_append (mt h.mem_nfcChars.1 hd), ih,
      List.map_cons]

/-- The readings of a composed text are the composed readings. -/
theorem IsSeparator.cuts_nfcChars (h : IsSeparator d) (cs : List Char) :
    cuts d (nfcChars cs) = (cuts d cs).map fun p => (nfcChars p.1, nfcChars p.2) := by
  induction cs using cutting_induction (d := d) with
  | whole cs hd =>
    rw [cuts_of_not_mem hd, cuts_of_not_mem (mt h.mem_nfcChars.1 hd), List.map_nil]
  | cut front rest hd ih =>
    rw [nfcChars_append_separator h, cuts_append hd, cuts_append (mt h.mem_nfcChars.1 hd), ih]
    simp [nfcChars_append_separator h]

theorem split_nfc {sep : Char} (h : IsSeparator sep) (s : String) :
    split sep (nfc s) = (split sep s).map nfc := by
  rw [split, split, nfc, String.toList_ofList, h.fields_nfcChars, List.map_map, List.map_map]
  refine List.map_congr_left fun piece _ => ?_
  simp [nfc]

end Keyboards.Text
