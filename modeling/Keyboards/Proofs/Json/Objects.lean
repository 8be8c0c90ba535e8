import Keyboards.Json.Printer
import Keyboards.Json.Reader
import Mathlib.Tactic.Common

/-! Objects of texts that are printed on one line are read back as they were. -/

namespace Keyboards.Json

variable {c : Char} {p : Piece} {ps : List Piece} {fuel : Nat} {cs rest text written : List Char}
  {e : String × String} {es : List (String × String)}

section Characters

/-- How a character is written inside a string: behind a backslash by a character that stands for
it or by its number, or as itself. -/
inductive Written (c : Char) : List Char → Prop where
  | short (e : Char) (stands : simpleEscape? e = some c) : Written c ['\\', e]
  | code (control : c.toNat < 0x20) :
      Written c ['\\', 'u', '0', '0', Text.lowerHexDigit (c.toNat / 16),
        Text.lowerHexDigit (c.toNat % 16)]
  | plain (visible : 0x20 ≤ c.toNat) (quote : c ≠ '"') (backslash : c ≠ '\\') : Written c [c]

theorem written_escape (c : Char) : Written c (escape c) := by
  rw [escape.eq_def]
  split
  · exact .short '"' rfl
  · exact .short '\\' rfl
  · exact .short 'n' rfl
  · exact .short 'r' rfl
  · exact .short 't' rfl
  · exact .short 'b' rfl
  · exact .short 'f' rfl
  · rename_i hquote hbackslash _ _ _ _ _
    dsimp only
    split_ifs with hcontrol
    · exact .code hcontrol
    · exact .plain (by omega) hquote hbackslash

/-- A piece that alone stands for a character. -/
inductive Denotes (c : Char) : Piece → Prop where
  | char : Denotes c (.char c)
  | unit (control : c.toNat < 0x20) : Denotes c (.unit c.toNat)

theorem characters_cons (h : Denotes c p) (ps : List Piece) :
    characters (p :: ps) = (characters ps).map (c :: ·) := by
  cases h with
  | char => rw [characters]
  | unit control =>
    have hhigh : isHigh c.toNat = false := by
      rw [isHigh, Bool.and_eq_false_iff, decide_eq_false_iff_not]
      omega
    have hlow : isLow c.toNat = false := by
      rw [isLow, Bool.and_eq_false_iff, decide_eq_false_iff_not]
      omega
    cases ps with
    | nil => simp [characters, hhigh, hlow]
    | cons q ps => cases q <;> simp [characters, hhigh, hlow]

theorem hexNumber?_code : ∀ n < 0x20, Text.hexNumber?
    ['0', '0', Text.lowerHexDigit (n / 16), Text.lowerHexDigit (n % 16)] = some n := by
  decide

theorem simpleEscape?_ne_u {e : Char} (h : simpleEscape? e = some c) : e ≠ 'u' := by
  rintro rfl
  cases h

/-- A written character is read as one piece that stands for it. -/
theorem Written.exists_piece (h : Written c written) : ∃ p, Denotes c p ∧
    ∀ cs, pieces (written ++ cs) = (pieces cs).map fun r => (p :: r.1, r.2) := by
  cases h with
  | short e stands =>
    refine ⟨.char c, .char, fun cs => ?_⟩
    have hu : e ≠ 'u' := simpleEscape?_ne_u stands
    rw [List.cons_append, List.cons_append, List.nil_append, pieces.eq_4]
    · rw [stands]
      cases pieces cs <;> rfl
    · exact fun _ _ _ _ _ he _ => hu he
  | code control =>
    refine ⟨.unit c.toNat, .unit control, fun cs => ?_⟩
    simp only [List.cons_append, List.nil_append, pieces.eq_3, hexNumber?_code _ control]
    cases pieces cs <;> rfl
  | plain visible quote backslash =>
    refine ⟨.char c, .char, fun cs => ?_⟩
    rw [List.cons_append, List.nil_append, pieces.eq_5]
    · have hplain : (decide (c.toNat < 0x20) || c == '\\') = false := by
        rw [Bool.or_eq_false_iff, decide_eq_false_iff_not, beq_eq_false_iff_ne]
        exact ⟨by omega, backslash⟩
      rw [hplain]
      rfl
    · exact quote
    · exact fun _ _ _ _ _ he _ => backslash he
    · exact fun _ _ he _ => backslash he

end Characters

section Strings

theorem exists_pieces_escape (cs rest : List Char) : ∃ ps,
    pieces (cs.flatMap escape ++ '"' :: rest) = some (ps, rest) ∧ characters ps = some cs := by
  induction cs with
  | nil => exact ⟨[], by simp [pieces], rfl⟩
  | cons c cs ih =>
    obtain ⟨ps, hps, hchars⟩ := ih
    obtain ⟨p, denotes, hread⟩ := (written_escape c).exists_piece
    refine ⟨p :: ps, ?_, ?_⟩
    · rw [List.flatMap_cons, List.append_assoc, hread, hps]
      rfl
    · rw [characters_cons denotes, hchars]
      rfl

/-- A string literal is read back up to its end, whatever it holds. -/
theorem stringTail_escape (s : String) (rest : List Char) :
    stringTail (s.toList.flatMap escape ++ '"' :: rest) = some (some s, rest) := by
  obtain ⟨ps, hps, hchars⟩ := exists_pieces_escape s.toList rest
  rw [stringTail, hps, Option.map_some]
  dsimp only
  rw [hchars, Option.map_some, String.ofList_toList]

theorem quote_append (s : String) (rest : List Char) :
    quote s.toList ++ rest = '"' :: (s.toList.flatMap escape ++ '"' :: rest) := by
  simp [quote]

theorem value_quote (s : String) (rest : List Char) :
    value (fuel + 1) (quote s.toList ++ rest) = some (.string (some s), rest) := by
  rw [quote_append, value]
  simp [skipSpace, isSpace, stringTail_escape]

end Strings

section Members

/-- A member as it is written. -/
def memberChars (e : String × String) : List Char := quote e.1.toList ++ ':' :: quote e.2.toList

/-- A member as it is read. -/
def member (e : String × String) : Option String × Value := (some e.1, .string (some e.2))

/-- Members with commas between them. -/
def memberList (es : List (String × String)) : List Char := [','].intercalate (es.map memberChars)

theorem toList_compactObject (es : List (String × String)) :
    (compactObject es).toList = '\x7b' :: (memberList es ++ ['\x7d']) := by
  have hmember : ∀ e : String × String,
      (quoted e.1 ++ ":" ++ quoted e.2).toList = memberChars e := by
    intro e
    simp [quoted, memberChars]
  simp [compactObject, memberList, Function.comp_def, hmember]

theorem memberList_cons (e : String × String) (h : es ≠ []) :
    memberList (e :: es) = memberChars e ++ ',' :: memberList es := by
  rw [memberList, List.map_cons, List.intercalate_cons_of_ne_nil (by simpa using h)]
  simp [memberList]

/-- Behind the last member the object ends. -/
theorem members_last (e : String × String) (rest : List Char) :
    members (fuel + 2) (memberChars e ++ '\x7d' :: rest) = some ([member e], rest) := by
  rw [memberChars, List.append_assoc, quote_append, members]
  simp [skipSpace, isSpace, stringTail_escape, value_quote, member]

/-- Behind a comma the other members follow. -/
theorem members_next (e : String × String) (rest : List Char) :
    members (fuel + 2) (memberChars e ++ ',' :: rest) =
      (members (fuel + 1) rest).map fun r => (member e :: r.1, r.2) := by
  rw [memberChars, List.append_assoc, quote_append, members]
  simp [skipSpace, isSpace, stringTail_escape, value_quote, member]

theorem members_memberList (e : String × String) (h : es.length < fuel) (rest : List Char) :
    members (fuel + 1) (memberList (e :: es) ++ '\x7d' :: rest) =
      some ((e :: es).map member, rest) := by
  induction es generalizing e fuel with
  | nil =>
    obtain ⟨fuel, rfl⟩ : ∃ n, fuel = n + 1 := Nat.exists_eq_add_one.2 h
    have hone : memberList [e] = memberChars e := by simp [memberList]
    rw [hone, members_last]
    rfl
  | cons f es ih =>
    rw [List.length_cons] at h
    obtain ⟨fuel, rfl⟩ : ∃ n, fuel = n + 1 := ⟨fuel - 1, by omega⟩
    have hlater := ih f (by omega : es.length < fuel)
    rw [memberList_cons e (List.cons_ne_nil f es), List.append_assoc, List.cons_append,
      members_next, hlater]
    rfl

/-- The text of an object is longer than the object has members. -/
theorem length_le_memberList (es : List (String × String)) :
    es.length ≤ (memberList es).length := by
  induction es with
  | nil => exact Nat.zero_le _
  | cons e es ih =>
    by_cases hes : es = []
    · subst hes
      simp [memberList, memberChars, quote]
    · rw [memberList_cons e hes, List.length_append, List.length_cons, List.length_cons]
      omega

theorem exists_memberList (e : String × String) (es : List (String × String)) :
    ∃ tail, memberList (e :: es) = '"' :: tail := by
  cases es with
  | nil => exact ⟨_, rfl⟩
  | cons f es => exact ⟨_, rfl⟩

theorem value_brace (cs : List Char) : value (fuel + 1) ('\x7b' :: '"' :: cs) =
    (members fuel ('"' :: cs)).map fun r => (.object r.1, r.2) := by
  rw [value]
  simp [skipSpace, isSpace]

/-- Between braces there are the members, or none. -/
theorem value_object (h : es.length < fuel) :
    value (fuel + 1) ('\x7b' :: (memberList es ++ ['\x7d'])) =
      some (.object (es.map member), []) := by
  cases es with
  | nil => rfl
  | cons e es =>
    obtain ⟨fuel, rfl⟩ : ∃ n, fuel = n + 1 := ⟨fuel - 1, by omega⟩
    rw [List.length_cons] at h
    have hmembers := members_memberList e (by omega : es.length < fuel) []
    obtain ⟨tail, htail⟩ := exists_memberList e es
    rw [htail, List.cons_append] at hmembers ⊢
    rw [value_brace, hmembers]
    rfl

/-- An object of texts is read back as it was printed, member by member and in order. -/
theorem read?_compactObject (es : List (String × String)) :
    read? (compactObject es) = some (.object (es.map member)) := by
  have hlength := length_le_memberList es
  have hvalue : value ((compactObject es).toList.length + 1) (compactObject es).toList =
      some (.object (es.map member), []) := by
    rw [toList_compactObject]
    apply value_object
    simp only [List.length_cons, List.length_append]
    omega
  rw [read?, hvalue]
  rfl

end Members

end Keyboards.Json
