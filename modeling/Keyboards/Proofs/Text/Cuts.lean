import Keyboards.Proofs.Text.Lines
import Mathlib.Data.List.Basic

/-! Texts cut at each of their separators: what the cuts are, how many there are, and in which order
they come. -/

namespace Keyboards.Text

variable {sep : Char} {cs before behind : List Char}

/-- What holds of texts without a separator, and of a text if it holds of what stands behind its
first separator, holds of every text. -/
theorem cutting_induction {d : Char} {P : List Char → Prop} (whole : ∀ cs, d ∉ cs → P cs)
    (cut : ∀ front rest, d ∉ front → P rest → P (front ++ d :: rest)) (cs : List Char) :
    P cs := by
  induction hn : cs.length using Nat.strong_induction_on generalizing cs with
  | _ n ih =>
    by_cases hd : d ∈ cs
    · obtain ⟨front, rest, rfl, hfront⟩ := List.eq_append_cons_of_mem hd
      rw [List.length_append, List.length_cons] at hn
      exact cut front rest hfront (ih rest.length (by omega) rest rfl)
    · exact whole cs hd

theorem cuts_of_not_mem (h : sep ∉ cs) : cuts sep cs = [] := by
  induction cs with
  | nil => rfl
  | cons c cs ih =>
    rw [List.mem_cons, not_or] at h
    rw [cuts, if_neg (Ne.symm h.1), ih h.2]
    rfl

theorem cuts_append {front : List Char} (h : sep ∉ front) (rest : List Char) :
    cuts sep (front ++ sep :: rest) =
      (front, rest) :: (cuts sep rest).map fun p => (front ++ sep :: p.1, p.2) := by
  induction front with
  | nil => simp [cuts]
  | cons c front ih =>
    rw [List.mem_cons, not_or] at h
    rw [List.cons_append, cuts, if_neg (Ne.symm h.1), ih h.2]
    simp

theorem mem_cuts : (before, behind) ∈ cuts sep cs ↔ cs = before ++ sep :: behind := by
  induction cs generalizing before with
  | nil => simp [cuts]
  | cons c rest ih =>
    have hlater : (before, behind) ∈ (cuts sep rest).map (fun p => (c :: p.1, p.2)) ↔
        ∃ tail, before = c :: tail ∧ rest = tail ++ sep :: behind := by
      simp only [List.mem_map, Prod.mk.injEq, Prod.exists]
      constructor
      · rintro ⟨tail, _, hin, rfl, rfl⟩
        exact ⟨tail, rfl, ih.1 hin⟩
      · rintro ⟨tail, rfl, hrest⟩
        exact ⟨tail, behind, ih.2 hrest, rfl, rfl⟩
    rw [cuts]
    cases before with
    | nil =>
      by_cases hc : c = sep
      · simp [hc, eq_comm]
      · simp [hc]
    | cons d tail =>
      by_cases hc : c = sep
      · subst hc
        simp only [if_pos, List.mem_cons, hlater]
        simp [eq_comm]
      · rw [if_neg hc, hlater]
        simp [eq_comm]

theorem count_append_cons {front : List Char} (h : sep ∉ front) (rest : List Char) :
    (front ++ sep :: rest).count sep = rest.count sep + 1 := by
  rw [List.count_append, List.count_eq_zero_of_not_mem h, List.count_cons_self, Nat.zero_add]

/-- There is one cut for each separator. -/
theorem length_cuts (sep : Char) (cs : List Char) : (cuts sep cs).length = cs.count sep := by
  induction cs using cutting_induction (d := sep) with
  | whole cs hsep =>
    rw [cuts_of_not_mem hsep, List.count_eq_zero_of_not_mem hsep]
    rfl
  | cut front rest hfront ih =>
    rw [cuts_append hfront, count_append_cons hfront, List.length_cons, List.length_map, ih]

/-- There is one more piece than there are separators. -/
theorem length_fields (sep : Char) (cs : List Char) :
    (fields sep cs).length = cs.count sep + 1 := by
  induction cs using cutting_induction (d := sep) with
  | whole cs hsep =>
    rw [fields_of_not_mem hsep, List.count_eq_zero_of_not_mem hsep]
    rfl
  | cut front rest hfront ih =>
    rw [fields_append hfront, count_append_cons hfront, List.length_cons, ih]

/-- What stands in front of a separator, and the separator, begin what stands in front of each
later one. -/
theorem pairwise_cuts (sep : Char) (cs : List Char) :
    (cuts sep cs).Pairwise fun p q => p.1 ++ [sep] <+: q.1 := by
  induction cs using cutting_induction (d := sep) with
  | whole cs hsep =>
    rw [cuts_of_not_mem hsep]
    exact .nil
  | cut front rest hfront ih =>
    rw [cuts_append hfront, List.pairwise_cons, List.pairwise_map]
    constructor
    · intro q hq
      obtain ⟨p, -, rfl⟩ := List.mem_map.1 hq
      exact ⟨p.1, by simp⟩
    · refine ih.imp fun {p q} hbegins => ?_
      obtain ⟨more, hmore⟩ := hbegins
      exact ⟨more, by simp [← hmore]⟩

/-- The cuts go through the pieces of a text: in front of each are the first so many pieces, joined
again, and behind it the others. -/
theorem cuts_eq_pieces (sep : Char) (cs : List Char) :
    cuts sep cs = (List.range' 1 (cs.count sep)).map fun i =>
      ([sep].intercalate ((fields sep cs).take i), [sep].intercalate ((fields sep cs).drop i)) := by
  induction cs using cutting_induction (d := sep) with
  | whole cs hsep =>
    rw [cuts_of_not_mem hsep, List.count_eq_zero_of_not_mem hsep]
    rfl
  | cut front rest hfront ih =>
    have hshift : List.range' (1 + 1) (rest.count sep) =
        (List.range' 1 (rest.count sep)).map (1 + ·) :=
      (List.map_add_range' 1 (rest.count sep) 1).symm
    rw [cuts_append hfront, fields_append hfront, count_append_cons hfront, List.range'_succ,
      List.map_cons, hshift, List.map_map, ih, List.map_map]
    congr 1
    · simp [intercalate_fields]
    -- a later cut has one piece more in front of it, and the same ones behind it
    · refine List.map_congr_left fun i hi => ?_
      obtain ⟨hpos, -⟩ := List.mem_range'_1.1 hi
      have htake : (fields sep rest).take i ≠ [] := by
        intro hnil
        rcases List.take_eq_nil_iff.1 hnil with hzero | hfields
        · omega
        · exact fields_ne_nil sep rest hfields
      simp [Nat.add_comm 1 i, List.intercalate_cons_of_ne_nil htake]

theorem split_eq_pair {s a b : String} (h : split sep s = [a, b]) : s.toList.count sep = 1 := by
  have hlength := congrArg List.length h
  rw [split, List.length_map, length_fields] at hlength
  simpa using hlength

theorem exists_split_of_count {s : String} (h : s.toList.count sep = 1) :
    ∃ a b, split sep s = [a, b] := by
  apply List.length_eq_two.1
  rw [split, List.length_map, length_fields, h]

end Keyboards.Text
