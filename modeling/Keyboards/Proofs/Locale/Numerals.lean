import Keyboards.Locale.WindowsId
import Keyboards.Proofs.Text.Lines
import Mathlib.Algebra.Group.Nat.Defs
import Mathlib.Data.List.Induction

/-! Which texts are stored locale identifiers, and which number each of them is. -/

namespace Keyboards.Locale

open Text (Trimmed isBlank trimChars)

variable {n : Nat} {c : Char} {cs ds : List Char}

/-- The digits of a number, with any number of zeros in front. -/
def Numeral (n : Nat) (ds : List Char) : Prop :=
  ∃ zeros, ds = List.replicate zeros '0' ++ Nat.toDigits 10 n

/-- How a stored identifier is spelled: as a numeral, with a plus sign at will, of a number that 31
bits hold; or with a minus sign in front of nothing but zeros. -/
inductive Spelled (n : Nat) : List Char → Prop where
  | plain {ds : List Char} (numeral : Numeral n ds) (small : n < 2 ^ 31) : Spelled n ds
  | plus {ds : List Char} (numeral : Numeral n ds) (small : n < 2 ^ 31) : Spelled n ('+' :: ds)
  | minus (zeros : Nat) (zero : n = 0) : Spelled n ('-' :: List.replicate (zeros + 1) '0')

section Digits

theorem digitsValue_eq (ds : List Char) : digitsValue ds = Nat.ofDigitChars 10 ds 0 := by
  simp [digitsValue, Nat.ofDigitChars, Nat.mul_comm]

/-- A digit is the numeral of its value. -/
theorem toDigits_of_isDigit (h : c.isDigit = true) :
    c.toNat - '0'.toNat < 10 ∧ Nat.toDigits 10 (c.toNat - '0'.toNat) = [c] := by
  have hzero : '0'.toNat = 48 := rfl
  have hnine : '9'.toNat = 57 := rfl
  obtain ⟨hlow, hhigh⟩ := Char.isDigit_iff_toNat.1 h
  have hsmall : c.toNat - '0'.toNat < 10 := by omega
  have hdigit : Nat.digitChar (c.toNat - '0'.toNat) = c := by
    rw [← Char.toNat_inj, Nat.toNat_digitChar_of_lt_ten hsmall]
    omega
  exact ⟨hsmall, by rw [Nat.toDigits_of_lt_base hsmall, hdigit]⟩

/-- One more digit behind a numeral. Behind zeros alone the numeral begins anew. -/
theorem Numeral.snoc (h : Numeral n ds) (hc : c.isDigit = true) :
    Numeral (10 * n + (c.toNat - '0'.toNat)) (ds ++ [c]) := by
  obtain ⟨zeros, rfl⟩ := h
  obtain ⟨hsmall, hdigit⟩ := toDigits_of_isDigit hc
  rw [← hdigit]
  rcases Nat.eq_zero_or_pos n with rfl | hpos
  · refine ⟨zeros + 1, ?_⟩
    rw [Nat.mul_zero, Nat.zero_add, Nat.toDigits_zero, ← List.replicate_succ']
  · refine ⟨zeros, ?_⟩
    rw [List.append_assoc, Nat.toDigits_append_toDigits (by omega) hpos hsmall]

/-- Whatever digits there are, they are a numeral of the number that they denote. -/
theorem numeral_of_isDigit (hne : ds ≠ []) (hall : ∀ d ∈ ds, d.isDigit = true) :
    Numeral (Nat.ofDigitChars 10 ds 0) ds := by
  induction ds using List.reverseRecOn with
  | nil => exact (hne rfl).elim
  | append_singleton ds d ih =>
    have hd : d.isDigit = true := hall d (by simp)
    have hvalue : Nat.ofDigitChars 10 (ds ++ [d]) 0 =
        10 * Nat.ofDigitChars 10 ds 0 + (d.toNat - '0'.toNat) := by
      rw [Nat.ofDigitChars_append]
      rfl
    rw [hvalue]
    by_cases hfirst : ds = []
    · subst hfirst
      exact ⟨0, by simpa using (toDigits_of_isDigit hd).2.symm⟩
    · have hinit : ∀ e ∈ ds, e.isDigit = true := fun e he => hall e (List.mem_append_left _ he)
      exact (ih hfirst hinit).snoc hd

theorem Numeral.isDigit (h : Numeral n ds) : ∀ d ∈ ds, d.isDigit = true := by
  obtain ⟨zeros, rfl⟩ := h
  intro d hd
  rcases List.mem_append.1 hd with hd | hd
  · obtain rfl := List.eq_of_mem_replicate hd
    rfl
  · exact Nat.isDigit_of_mem_toDigits (by omega) (by omega) hd

/-- The numerals of a number are the digits that denote it, one at least. -/
theorem numeral_iff : Numeral n ds ↔
    ds ≠ [] ∧ (∀ d ∈ ds, d.isDigit = true) ∧ Nat.ofDigitChars 10 ds 0 = n := by
  constructor
  · intro h
    refine ⟨?_, h.isDigit, ?_⟩
    · obtain ⟨zeros, rfl⟩ := h
      intro hnil
      exact Nat.toDigits_ne_nil (List.append_eq_nil_iff.1 hnil).2
    · obtain ⟨zeros, rfl⟩ := h
      rw [Nat.ofDigitChars_append, Nat.ofDigitChars_replicate_zero, Nat.mul_zero,
        Nat.ofDigitChars_toDigits (by omega) (by omega)]
  · rintro ⟨hne, hall, rfl⟩
    exact numeral_of_isDigit hne hall

theorem digits?_eq_some_iff : digits? ds = some n ↔ Numeral n ds := by
  rw [numeral_iff, ← digitsValue_eq, digits?]
  split
  next hds =>
    simp only [reduceCtorEq, false_iff]
    rintro ⟨hne, hall, -⟩
    simp [hne, List.all_eq_true.2 hall] at hds
  next hds =>
    simp only [Bool.or_eq_true, List.isEmpty_iff, Bool.not_eq_true', not_or, Bool.not_eq_false,
      List.all_eq_true] at hds
    obtain ⟨hne, hall⟩ := hds
    rw [Option.some.injEq]
    exact ⟨fun hvalue => ⟨hne, hall, hvalue⟩, fun h => h.2.2⟩

theorem numeral_zero_iff : Numeral 0 ds ↔ ∃ zeros, ds = List.replicate (zeros + 1) '0' := by
  simp only [Numeral, Nat.toDigits_zero, List.replicate_succ']

end Digits

section Signs

theorem isBlank_of_isDigit (h : c.isDigit = true) : isBlank c = false := by
  have hzero : '0'.toNat = 48 := rfl
  have hnine : '9'.toNat = 57 := rfl
  obtain ⟨hlow, hhigh⟩ := Char.isDigit_iff_toNat.1 h
  rw [← Bool.not_eq_true]
  simp only [isBlank, Bool.or_eq_true, Bool.and_eq_true, decide_eq_true_eq, beq_iff_eq]
  omega

theorem Spelled.isBlank (h : Spelled n cs) : ∀ c ∈ cs, isBlank c = false := by
  intro c hc
  cases h with
  | plain numeral => exact isBlank_of_isDigit (numeral.isDigit c hc)
  | plus numeral =>
    rcases List.mem_cons.1 hc with rfl | hc
    · decide
    · exact isBlank_of_isDigit (numeral.isDigit c hc)
  | minus =>
    rcases List.mem_cons.1 hc with rfl | hc
    · decide
    · obtain rfl := List.eq_of_mem_replicate hc
      decide

/-- A sign is no digit, so what has one is spelled with it. -/
theorem spelled_plus_iff : Spelled n ('+' :: ds) ↔ Numeral n ds ∧ n < 2 ^ 31 := by
  constructor
  · intro h
    cases h with
    | plain numeral => cases numeral.isDigit '+' List.mem_cons_self
    | plus numeral small => exact ⟨numeral, small⟩
  · rintro ⟨numeral, small⟩
    exact .plus numeral small

theorem spelled_minus_iff : Spelled n ('-' :: ds) ↔ Numeral n ds ∧ n = 0 := by
  constructor
  · intro h
    cases h with
    | plain numeral => cases numeral.isDigit '-' List.mem_cons_self
    | minus zeros zero =>
      subst zero
      exact ⟨numeral_zero_iff.2 ⟨zeros, rfl⟩, rfl⟩
  · rintro ⟨numeral, rfl⟩
    obtain ⟨zeros, rfl⟩ := numeral_zero_iff.1 numeral
    exact .minus zeros rfl

theorem spelled_unsigned_iff (plus : ∀ tail, cs ≠ '+' :: tail) (minus : ∀ tail, cs ≠ '-' :: tail) :
    Spelled n cs ↔ Numeral n cs ∧ n < 2 ^ 31 := by
  constructor
  · intro h
    cases h with
    | plain numeral small => exact ⟨numeral, small⟩
    | plus => exact (plus _ rfl).elim
    | minus => exact (minus _ rfl).elim
  · rintro ⟨numeral, small⟩
    exact .plain numeral small

theorem le_maxStored_iff : n ≤ maxStored ↔ n < 2 ^ 31 := by
  rw [maxStored]
  omega

/-- What is read between the white space at the ends is what is spelled there. -/
theorem readWindowsId?_eq_some (stored : String) :
    readWindowsId? stored = some n ↔ Spelled n (trimChars stored.toList) := by
  rw [readWindowsId?]
  split
  next ds htext =>
    rw [htext, spelled_minus_iff, Option.filter_eq_some_iff, digits?_eq_some_iff, beq_iff_eq]
  next ds htext =>
    rw [htext, spelled_plus_iff, Option.filter_eq_some_iff, digits?_eq_some_iff,
      decide_eq_true_eq, le_maxStored_iff]
  next minus plus =>
    rw [spelled_unsigned_iff plus minus, Option.filter_eq_some_iff, digits?_eq_some_iff,
      decide_eq_true_eq, le_maxStored_iff]

end Signs

/-- A text is a stored identifier exactly if it is spelled as one, with any white space around it.
All else is none: neither a number that is too large nor one below zero is read as another. -/
theorem readWindowsId?_eq_some_iff (stored : String) (n : Nat) :
    readWindowsId? stored = some n ↔ ∃ front text back : List Char,
      front.all isBlank = true ∧ back.all isBlank = true ∧
        stored.toList = front ++ (text ++ back) ∧ Spelled n text := by
  rw [readWindowsId?_eq_some]
  constructor
  · intro h
    obtain ⟨front, back, hfront, hback, htext⟩ := Text.exists_trimChars stored.toList
    exact ⟨front, _, back, hfront, hback, htext, h⟩
  · rintro ⟨front, text, back, hfront, hback, htext, h⟩
    have trimmed : Trimmed text := .of_solid h.isBlank
    rw [htext, Text.trimChars_blanks_append _ hfront, Text.trimChars_append_blanks _ hback,
      trimmed.trimChars_eq]
    exact h

/-- Zeros in front do not count, and the largest number that is read is not a digit too large. -/
example : readWindowsId? " +0002147483647\n" = some 2147483647 ∧
    readWindowsId? "2147483648" = none ∧ readWindowsId? "-00" = some 0 := by decide +kernel

end Keyboards.Locale
