import Mathlib.Data.List.Chain
import Mathlib.Tactic.Common
import Keyboards.Text.Canonical

/-! Decompositions are final, and a composite decomposes as its two parts do. -/

namespace Keyboards.Text

open Unicode

section Tables

variable {α : Type} {t : List (Nat × List α)} {c n : Nat} {e : α}

/-- The entries of a table of runs with their code points. -/
def listing (t : List (Nat × List α)) : List (Nat × α) :=
  t.flatMap fun r => r.2.zipIdx.map fun x => (r.1 + x.2, x.1)

theorem mem_listing : (c, e) ∈ listing t ↔ ∃ r ∈ t, r.1 ≤ c ∧ r.2[c - r.1]? = some e := by
  simp only [listing, List.mem_flatMap, List.mem_map, Prod.mk.injEq, Prod.exists,
    List.mk_mem_zipIdx_iff_getElem?]
  constructor
  · rintro ⟨first, entries, hr, e', i, hi, rfl, rfl⟩
    refine ⟨first, entries, hr, by omega, ?_⟩
    rw [Nat.add_sub_cancel_left]
    exact hi
  · rintro ⟨first, entries, hr, hle, hi⟩
    exact ⟨first, entries, hr, e, c - first, hi, by omega, rfl⟩

theorem runAt?_mem (h : runAt? c t = some e) : (c, e) ∈ listing t := by
  rw [mem_listing]
  induction t with
  | nil => cases h
  | cons r t ih =>
    obtain ⟨first, entries⟩ := r
    simp only [runAt?] at h
    by_cases hlt : c < first
    · rw [if_pos hlt] at h
      cases h
    · rw [if_neg hlt] at h
      cases hi : entries[c - first]? with
      | some e' =>
        rw [hi] at h
        cases h
        exact ⟨_, List.mem_cons_self, by simpa using hlt, hi⟩
      | none =>
        rw [hi] at h
        obtain ⟨r, hr, hc⟩ := ih h
        exact ⟨r, List.mem_cons_of_mem _ hr, hc⟩

/-- The runs of a table come in order and do not overlap. -/
def Ordered (t : List (Nat × List α)) : Prop := t.Pairwise fun r s => r.1 + r.2.length ≤ s.1

/-- It is enough to compare neighbours. -/
theorem ordered_of_isChain (h : t.IsChain fun r s => r.1 + r.2.length ≤ s.1) : Ordered t := by
  have htrans : ∀ {r s u : Nat × List α}, r.1 + r.2.length ≤ s.1 → s.1 + s.2.length ≤ u.1 →
      r.1 + r.2.length ≤ u.1 := by
    intro r s u hrs hsu
    omega
  have : IsTrans (Nat × List α) fun r s => r.1 + r.2.length ≤ s.1 := ⟨fun _ _ _ => htrans⟩
  exact List.isChain_iff_pairwise.1 h

theorem runAt?_of_mem (ordered : Ordered t) (h : (c, e) ∈ listing t) : runAt? c t = some e := by
  rw [mem_listing] at h
  induction t with
  | nil =>
    obtain ⟨_, hr, -⟩ := h
    cases hr
  | cons r t ih =>
    obtain ⟨hfirst, hrest⟩ := List.pairwise_cons.1 ordered
    obtain ⟨s, hs, hle, hi⟩ := h
    simp only [runAt?]
    rcases List.mem_cons.1 hs with rfl | hs
    · rw [if_neg (by omega), hi]
    · have hbehind := hfirst s hs
      have hnone : r.2[c - r.1]? = none := List.getElem?_eq_none (by omega)
      rw [if_neg (by omega), hnone]
      exact ih hrest ⟨s, hs, hle, hi⟩

theorem runCode?_mem {t : List (Nat × List (Nat × Nat))} {a b : Nat}
    (h : runCode? a b t = some c) : (c, (a, b)) ∈ listing t := by
  rw [mem_listing]
  induction t with
  | nil => cases h
  | cons r t ih =>
    obtain ⟨first, entries⟩ := r
    simp only [runCode?] at h
    cases hi : entries.findIdx? (fun e => e.2 == b && e.1 == a) with
    | some i =>
      rw [hi] at h
      cases h
      obtain ⟨hlt, heq, -⟩ := List.findIdx?_eq_some_iff_getElem.1 hi
      have hab : entries[i] = (a, b) := by
        rw [Bool.and_eq_true, beq_iff_eq, beq_iff_eq] at heq
        exact Prod.ext heq.2 heq.1
      refine ⟨_, List.mem_cons_self, by simp, ?_⟩
      rw [Nat.add_sub_cancel_left, List.getElem?_eq_getElem hlt, hab]
    | none =>
      rw [hi] at h
      obtain ⟨r, hr, hc⟩ := ih h
      exact ⟨r, List.mem_cons_of_mem _ hr, hc⟩

/-- Code points as the bits of one number, in which they are found without a search. -/
def codeSet (cs : List Nat) : Nat := cs.foldl (fun s c => s ||| (1 <<< c)) 0

theorem testBit_codeSet {cs : List Nat} : (codeSet cs).testBit n = true ↔ n ∈ cs := by
  suffices h : ∀ s : Nat, (cs.foldl (fun s c => s ||| (1 <<< c)) s).testBit n = true ↔
      s.testBit n = true ∨ n ∈ cs by
    simpa [codeSet] using h 0
  induction cs with
  | nil => simp
  | cons c cs ih =>
    intro s
    rw [List.foldl_cons, ih, Nat.testBit_or, Nat.one_shiftLeft, Nat.testBit_two_pow,
      Bool.or_eq_true, decide_eq_true_eq, List.mem_cons, or_assoc, eq_comm (a := n)]

end Tables

/-- What a code point is taken apart into by one step: the part that may go on splitting, and the
rest. -/
def part? (n : Nat) : Option (Nat × List Nat) :=
  (((runAt? n composites).orElse fun _ => runAt? n splitOnly).map fun p => (p.1, [p.2])).orElse
    fun _ => (runAt? n equivalents).map fun e => (e, [])

/-- All that is taken apart, with its parts. -/
def parts : List (Nat × Nat × List Nat) :=
  (listing composites ++ listing splitOnly).map (fun p => (p.1, p.2.1, [p.2.2])) ++
    (listing equivalents).map fun p => (p.1, p.2, [])

def isSyllable (n : Nat) : Bool := 0xAC00 ≤ n && n < 0xD7A4

/-- What is taken apart, as a set. -/
def splitting : Nat := codeSet (parts.map (·.1))

/-- What is taken apart more than once. -/
def splittingTwice : Nat :=
  codeSet ((parts.filter fun p => splitting.testBit p.2.1).map (·.1))

/-- What is taken apart more than twice. -/
def splittingThrice : Nat :=
  codeSet ((parts.filter fun p => splittingTwice.testBit p.2.1).map (·.1))

/-- How many steps it takes to take a code point apart. -/
def steps (n : Nat) : Nat :=
  if splittingThrice.testBit n then 3
  else if splittingTwice.testBit n then 2
  else if splitting.testBit n then 1
  else 0

variable {a b c n x : Nat} {rest : List Nat}

theorem mem_parts_of_part? (h : part? n = some (a, rest)) : (n, a, rest) ∈ parts := by
  simp only [parts, List.mem_append, List.mem_map, Prod.mk.injEq]
  rw [part?] at h
  cases hc : runAt? n composites with
  | some p =>
    rw [hc] at h
    cases h
    exact .inl ⟨(n, p), .inl (runAt?_mem hc), rfl, rfl, rfl⟩
  | none =>
    cases hs : runAt? n splitOnly with
    | some p =>
      rw [hc, hs] at h
      cases h
      exact .inl ⟨(n, p), .inr (runAt?_mem hs), rfl, rfl, rfl⟩
    | none =>
      rw [hc, hs] at h
      obtain ⟨e, he, hp⟩ := Option.map_eq_some_iff.1 h
      cases hp
      exact .inr ⟨(n, a), runAt?_mem he, rfl, rfl, rfl⟩

theorem expand_succ (depth n : Nat) :
    expand (depth + 1) n = match part? n with
      | some (a, rest) => expand depth a ++ rest
      | none => [n] := by
  rw [expand, part?]
  cases (runAt? n composites).orElse fun _ => runAt? n splitOnly with
  | some p => rfl
  | none =>
    cases runAt? n equivalents with
    | some e => simp
    | none => rfl

theorem composites_ordered : Ordered composites := ordered_of_isChain (by decide +kernel)

/-- A composite is taken apart into its two parts. -/
theorem part?_of_composite (h : (c, (a, b)) ∈ listing composites) : part? c = some (a, [b]) := by
  rw [part?, runAt?_of_mem composites_ordered h]
  rfl

/-- The first parts never go on splitting more than twice, and no part is a syllable. -/
theorem parts_shallow : (parts.all fun p =>
    !splittingThrice.testBit p.2.1 && !isSyllable p.2.1) = true := by decide +kernel

/-- The parts behind the first one do not split. -/
theorem parts_rest : (parts.all fun p =>
    p.2.2.all fun x => !splitting.testBit x && !isSyllable x) = true := by decide +kernel

theorem splitting_iff : splitting.testBit n = true ↔ ∃ a rest, (n, a, rest) ∈ parts := by
  simp [splitting, testBit_codeSet]

theorem splittingTwice_iff : splittingTwice.testBit n = true ↔
    ∃ a rest, (n, a, rest) ∈ parts ∧ splitting.testBit a = true := by
  simp [splittingTwice, testBit_codeSet]

theorem splittingThrice_iff : splittingThrice.testBit n = true ↔
    ∃ a rest, (n, a, rest) ∈ parts ∧ splittingTwice.testBit a = true := by
  simp [splittingThrice, testBit_codeSet]

theorem steps_le (n : Nat) : steps n ≤ 3 := by
  unfold steps
  split_ifs <;> omega

/-- Each step leads closer to the end. -/
theorem steps_lt (h : (n, a, rest) ∈ parts) : steps a < steps n := by
  have hshallow := List.all_eq_true.1 parts_shallow _ h
  simp only [Bool.and_eq_true, Bool.not_eq_true'] at hshallow
  have hn : splitting.testBit n = true := splitting_iff.2 ⟨a, rest, h⟩
  unfold steps
  rw [hshallow.1]
  by_cases htwice : splittingTwice.testBit a = true
  · have hthrice : splittingThrice.testBit n = true := splittingThrice_iff.2 ⟨a, rest, h, htwice⟩
    simp [htwice, hthrice]
  · by_cases honce : splitting.testBit a = true
    · have hntwice : splittingTwice.testBit n = true := splittingTwice_iff.2 ⟨a, rest, h, honce⟩
      simp only [htwice, honce, hntwice]
      split_ifs <;> simp_all
    · simp only [htwice, honce, hn]
      split_ifs <;> simp_all

theorem part?_eq_none (h : splitting.testBit n = false) : part? n = none := by
  cases hp : part? n with
  | none => rfl
  | some p =>
    have hn := splitting_iff.2 ⟨p.1, p.2, mem_parts_of_part? hp⟩
    rw [h] at hn
    cases hn

theorem part?_eq_none_of_steps (h : steps n = 0) : part? n = none := by
  cases hp : part? n with
  | none => rfl
  | some p =>
    have hlt := steps_lt (mem_parts_of_part? hp)
    omega

theorem expand_of_part?_none (h : part? n = none) (depth : Nat) : expand depth n = [n] := by
  cases depth with
  | zero => rfl
  | succ depth => rw [expand_succ, h]

/-- Steps beyond those that are needed change nothing. -/
theorem expand_stable {depth : Nat} (h : steps n ≤ depth) :
    expand (depth + 1) n = expand depth n := by
  induction depth generalizing n with
  | zero =>
    have hnone := part?_eq_none_of_steps (Nat.le_zero.1 h)
    rw [expand_of_part?_none hnone, expand_of_part?_none hnone]
  | succ depth ih =>
    rw [expand_succ, expand_succ depth]
    cases hp : part? n with
    | none => rfl
    | some p =>
      have hlt := steps_lt (mem_parts_of_part? hp)
      simp only
      rw [ih (by omega)]

/-- What does not go on splitting and is no syllable. -/
def isAtom (n : Nat) : Prop := part? n = none ∧ isSyllable n = false

theorem isAtom_of_expand {depth : Nat} (h : steps n ≤ depth) (hn : isSyllable n = false)
    (hx : x ∈ expand depth n) : isAtom x := by
  induction depth generalizing n with
  | zero =>
    cases List.mem_singleton.1 hx
    exact ⟨part?_eq_none_of_steps (Nat.le_zero.1 h), hn⟩
  | succ depth ih =>
    rw [expand_succ] at hx
    cases hp : part? n with
    | none =>
      rw [hp] at hx
      cases List.mem_singleton.1 hx
      exact ⟨hp, hn⟩
    | some p =>
      rw [hp] at hx
      have hmem := mem_parts_of_part? hp
      have hlt := steps_lt hmem
      rcases List.mem_append.1 hx with hx | hx
      · have hfirst := List.all_eq_true.1 parts_shallow _ hmem
        simp only [Bool.and_eq_true, Bool.not_eq_true'] at hfirst
        exact ih (by omega) hfirst.2 hx
      · have hrest := List.all_eq_true.1 (List.all_eq_true.1 parts_rest _ hmem) x hx
        simp only [Bool.and_eq_true, Bool.not_eq_true'] at hrest
        exact ⟨part?_eq_none hrest.1, hrest.2⟩

/-- What is taken apart or made of parts lies behind the plain letters and is no syllable. -/
theorem parts_scalar : (parts.all fun p =>
    0xC0 ≤ p.1 && (p.1 < 0xAC00 || (0xDFFF < p.1 && p.1 < 0x110000))) = true := by
  decide +kernel

/-- The letters that syllables are made of do not split. -/
theorem jamo_whole : ((List.range' 0x1100 0xC3).all fun n => !splitting.testBit n) = true := by
  decide +kernel

theorem bounds_of_mem_parts (h : (n, a, rest) ∈ parts) :
    0xC0 ≤ n ∧ (n < 0xAC00 ∨ (0xDFFF < n ∧ n < 0x110000)) := by
  have hn := List.all_eq_true.1 parts_scalar _ h
  simpa using hn

theorem isSyllable_of_mem_parts (h : (n, a, rest) ∈ parts) : isSyllable n = false := by
  have hn := bounds_of_mem_parts h
  simp only [isSyllable, Bool.and_eq_false_iff, decide_eq_false_iff_not]
  omega

theorem isAtom_of_lt (h : n < 0xC0) : isAtom n := by
  constructor
  · cases hp : part? n with
    | none => rfl
    | some p =>
      have hn := bounds_of_mem_parts (mem_parts_of_part? hp)
      omega
  · simp only [isSyllable, Bool.and_eq_false_iff, decide_eq_false_iff_not]
    omega

theorem isAtom_of_jamo (h : 0x1100 ≤ n ∧ n < 0x11C3) : isAtom n := by
  have hn := List.all_eq_true.1 jamo_whole n (by rw [List.mem_range'_1]; omega)
  refine ⟨part?_eq_none (by simpa using hn), ?_⟩
  simp only [isSyllable, Bool.and_eq_false_iff, decide_eq_false_iff_not]
  omega

theorem toNat_ofNat (h : n.isValidChar) : (Char.ofNat n).toNat = n := by
  rw [Char.ofNat, dif_pos h]
  rfl

theorem ofNat_of_not_isValidChar (h : ¬ n.isValidChar) : Char.ofNat n = Char.ofNat 0 := by
  rw [Char.ofNat, dif_neg h]
  rfl

section Characters

variable {c d x : Char}

theorem decompose_eq_expand (h : isSyllable c.toNat = false) :
    decompose c = (expand 3 c.toNat).map Char.ofNat := by
  simp only [isSyllable, Bool.and_eq_false_iff, decide_eq_false_iff_not] at h
  rw [decompose]
  by_cases hlow : c.toNat < 0xC0
  · rw [if_pos hlow, expand_of_part?_none (isAtom_of_lt hlow).1]
    simp
  · rw [if_neg hlow, if_neg (by omega)]

theorem decompose_syllable (h : isSyllable c.toNat = true) :
    decompose c = (splitSyllable c.toNat).map Char.ofNat := by
  simp only [isSyllable, Bool.and_eq_true, decide_eq_true_eq] at h
  rw [decompose, if_neg (by omega), if_pos h]

theorem decompose_of_isAtom (h : isAtom c.toNat) : decompose c = [c] := by
  rw [decompose_eq_expand h.2, expand_of_part?_none h.1]
  simp

theorem decompose_ofNat (h : isAtom n) : decompose (Char.ofNat n) = [Char.ofNat n] := by
  apply decompose_of_isAtom
  by_cases hn : n.isValidChar
  · rw [toNat_ofNat hn]
    exact h
  · rw [ofNat_of_not_isValidChar hn]
    exact isAtom_of_lt (by decide)

/-- What a decomposition consists of does not split any more. -/
theorem decompose_of_mem (h : x ∈ decompose c) : decompose x = [x] := by
  cases hc : isSyllable c.toNat with
  | false =>
    rw [decompose_eq_expand hc] at h
    obtain ⟨n, hn, rfl⟩ := List.mem_map.1 h
    exact decompose_ofNat (isAtom_of_expand (steps_le _) hc hn)
  | true =>
    rw [decompose_syllable hc] at h
    obtain ⟨n, hn, rfl⟩ := List.mem_map.1 h
    apply decompose_ofNat
    apply isAtom_of_jamo
    simp only [isSyllable, Bool.and_eq_true, decide_eq_true_eq] at hc
    simp only [splitSyllable, List.mem_append, List.mem_cons, List.not_mem_nil, or_false] at hn
    rcases hn with (rfl | rfl) | hn
    · omega
    · omega
    · split_ifs at hn
      · cases hn
      · have htail := List.mem_singleton.1 hn
        omega

/-- A syllable that is made of two parts comes apart into the parts of the first and the second. -/
theorem splitSyllable_of_joinSyllable? {a b : Nat} (h : joinSyllable? a b = some n) :
    isSyllable n = true ∧
    (isAtom a ∧ splitSyllable n = [a, b] ∨
      isSyllable a = true ∧ splitSyllable n = splitSyllable a ++ [b]) := by
  rw [joinSyllable?] at h
  split_ifs at h with hlead htail
  · have hn : n = 0xAC00 + ((a - 0x1100) * 21 + (b - 0x1161)) * 28 := by simpa using h.symm
    refine ⟨?_, .inl ⟨isAtom_of_jamo (by omega), ?_⟩⟩
    · simp only [isSyllable, Bool.and_eq_true, decide_eq_true_eq]
      omega
    · have hone : 0x1100 + (n - 0xAC00) / 588 = a := by omega
      have htwo : 0x1161 + (n - 0xAC00) % 588 / 28 = b := by omega
      have hthree : (n - 0xAC00) % 28 = 0 := by omega
      simp [splitSyllable, hone, htwo, hthree]
  · have hn : n = a + (b - 0x11A7) := by simpa using h.symm
    refine ⟨?_, .inr ⟨?_, ?_⟩⟩
    · simp only [isSyllable, Bool.and_eq_true, decide_eq_true_eq]
      omega
    · simp only [isSyllable, Bool.and_eq_true, decide_eq_true_eq]
      omega
    · have hone : (n - 0xAC00) / 588 = (a - 0xAC00) / 588 := by omega
      have htwo : (n - 0xAC00) % 588 / 28 = (a - 0xAC00) % 588 / 28 := by omega
      have hthree : (n - 0xAC00) % 28 = b - 0x11A7 := by omega
      have hsome : b - 0x11A7 ≠ 0 := by omega
      have hback : 0x11A7 + (b - 0x11A7) = b := by omega
      simp [splitSyllable, hone, htwo, hthree, hsome, hback, htail.2.2.1]

theorem decompose_of_joinSyllable? {n : Nat} (h : joinSyllable? c.toNat d.toNat = some n) :
    decompose (Char.ofNat n) = decompose c ++ [d] := by
  obtain ⟨hn, hparts⟩ := splitSyllable_of_joinSyllable? h
  have hnat : (Char.ofNat n).toNat = n := by
    apply toNat_ofNat
    simp only [isSyllable, Bool.and_eq_true, decide_eq_true_eq] at hn
    unfold Nat.isValidChar
    omega
  have hx : decompose (Char.ofNat n) = (splitSyllable n).map Char.ofNat := by
    rw [decompose_syllable (by rw [hnat]; exact hn), hnat]
  rcases hparts with ⟨hatom, hsplit⟩ | ⟨hsyllable, hsplit⟩
  · rw [hx, hsplit, decompose_of_isAtom hatom]
    simp
  · rw [hx, hsplit, decompose_syllable hsyllable]
    simp

theorem decompose_of_part? {n : Nat} (h : part? n = some (c.toNat, [d.toNat])) :
    decompose (Char.ofNat n) = decompose c ++ [d] := by
  have hmem := mem_parts_of_part? h
  have hbounds := bounds_of_mem_parts hmem
  have hnat : (Char.ofNat n).toNat = n := by
    apply toNat_ofNat
    unfold Nat.isValidChar
    omega
  have hsyllable : isSyllable (Char.ofNat n).toNat = false := by
    rw [hnat]
    exact isSyllable_of_mem_parts hmem
  have hfirst := List.all_eq_true.1 parts_shallow _ hmem
  simp only [Bool.and_eq_true, Bool.not_eq_true'] at hfirst
  rw [decompose_eq_expand hsyllable, decompose_eq_expand hfirst.2, hnat,
    ← expand_stable (steps_le n), expand_succ, h]
  simp

/-- A character that composition makes of two comes apart into these two again. -/
theorem decompose_of_pair? (h : pair? c d = some x) :
    decompose x = decompose c ++ [d] := by
  rw [pair?] at h
  by_cases hlow : d.toNat < 0x300
  · rw [if_pos hlow] at h
    cases h
  rw [if_neg hlow] at h
  cases hj : joinSyllable? c.toNat d.toNat with
  | some n =>
    rw [hj] at h
    cases h
    exact decompose_of_joinSyllable? hj
  | none =>
    rw [hj] at h
    obtain ⟨n, hn, rfl⟩ := Option.map_eq_some_iff.1 h
    exact decompose_of_part? (part?_of_composite (runCode?_mem hn))

end Characters

end Keyboards.Text
