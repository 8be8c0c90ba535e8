import Keyboards.Text.Unicode.Composites
import Keyboards.Text.Unicode.Equivalents
import Keyboards.Text.Unicode.CombiningClass

/-! Canonical composition (NFC), the form in which keyboard names are compared. -/

namespace Keyboards.Text

open Unicode

/-- The entry of a code point in a table of runs. -/
def runAt? {α : Type} (c : Nat) : List (Nat × List α) → Option α
  | [] => none
  | (first, entries) :: rest =>
    if c < first then none
    else match entries[c - first]? with
      | some e => some e
      | none => runAt? c rest

/-- The code point whose entry in a table of pairs is the given pair. -/
def runCode? (a b : Nat) : List (Nat × List (Nat × Nat)) → Option Nat
  | [] => none
  | (first, entries) :: rest =>
    match entries.findIdx? (fun e => e.2 == b && e.1 == a) with
    | some i => some (first + i)
    | none => runCode? a b rest

/-- A syllable of the Hangul block is a lead, a vowel and perhaps a tail. -/
def splitSyllable (c : Nat) : List Nat :=
  let i := c - 0xAC00
  let tail := i % 28
  [0x1100 + i / 588, 0x1161 + i % 588 / 28] ++ (if tail = 0 then [] else [0x11A7 + tail])

/-- A lead takes a vowel, and a syllable without a tail takes a tail. -/
def joinSyllable? (a b : Nat) : Option Nat :=
  if 0x1100 ≤ a ∧ a < 0x1113 ∧ 0x1161 ≤ b ∧ b < 0x1176 then
    some (0xAC00 + ((a - 0x1100) * 21 + (b - 0x1161)) * 28)
  else if 0xAC00 ≤ a ∧ a < 0xD7A4 ∧ (a - 0xAC00) % 28 = 0 ∧ 0x11A8 ≤ b ∧ b < 0x11C3 then
    some (a + (b - 0x11A7))
  else none

/-- Takes a code point apart as far as `depth` steps go; only the first part goes on splitting. -/
def expand : Nat → Nat → List Nat
  | 0, c => [c]
  | depth + 1, c =>
    match (runAt? c composites).orElse (fun _ => runAt? c splitOnly) with
    | some (a, b) => expand depth a ++ [b]
    | none =>
      match runAt? c equivalents with
      | some e => expand depth e
      | none => [c]

/-- The full decomposition of a character. No entry of the tables needs more than three steps. -/
def decompose (c : Char) : List Char :=
  let n := c.toNat
  if n < 0xC0 then [c]
  else if 0xAC00 ≤ n ∧ n < 0xD7A4 then (splitSyllable n).map Char.ofNat
  else (expand 3 n).map Char.ofNat

/-- The character that stands for `a` followed by `b`. No second part lies below U+0300. -/
def pair? (a b : Char) : Option Char :=
  if b.toNat < 0x300 then none
  else ((joinSyllable? a.toNat b.toNat).orElse
    (fun _ => runCode? a.toNat b.toNat composites)).map Char.ofNat

def classOf (c : Char) : Nat := combiningClass c.toNat

/-- Puts a character before an ordered text, behind the marks of lower class. -/
def place (c : Char) : List Char → List Char
  | [] => [c]
  | d :: rest =>
    if 0 < classOf d ∧ classOf d < classOf c then d :: place c rest else c :: d :: rest

/-- Sorts every run of marks by class; marks of one class keep their order. -/
def reorder (cs : List Char) : List Char := cs.foldr place []

/-- Composition behind `starter`. `marks` holds, last first, what stays between it and the rest. -/
def composeFrom (starter : Char) (marks : List Char) : List Char → List Char
  | [] => starter :: marks.reverse
  | c :: rest =>
    let reachable := match marks with
      | [] => true
      | last :: _ => classOf last < classOf c
    match if reachable then pair? starter c else none with
    | some joined => composeFrom joined marks rest
    | none =>
      if classOf c = 0 then starter :: (marks.reverse ++ composeFrom c [] rest)
      else composeFrom starter (c :: marks) rest

/-- Joins each starting character with the marks that it can reach. -/
def compose : List Char → List Char
  | [] => []
  | c :: rest => if classOf c = 0 then composeFrom c [] rest else c :: compose rest

/-- The canonical decomposition (NFD). -/
def nfdChars (cs : List Char) : List Char := reorder (cs.flatMap decompose)

/-- The canonical composition (NFC). -/
def nfcChars (cs : List Char) : List Char := compose (nfdChars cs)

/-- The canonical composition of a text. -/
def nfc (s : String) : String := String.ofList (nfcChars s.toList)

end Keyboards.Text
