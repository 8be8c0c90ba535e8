/-! Texts: white space, cuts at a separating character, and hexadecimal digits. -/

namespace Keyboards.Text

/-- The characters with the property White_Space. -/
def isBlank (c : Char) : Bool :=
  let n := c.toNat
  (9 ≤ n && n ≤ 13) || n == 0x20 || n == 0x85 || n == 0xA0 || n == 0x1680 ||
    (0x2000 ≤ n && n ≤ 0x200A) || n == 0x2028 || n == 0x2029 || n == 0x202F || n == 0x205F ||
    n == 0x3000

def trimStart (cs : List Char) : List Char := cs.dropWhile isBlank

def trimEnd (cs : List Char) : List Char := (cs.reverse.dropWhile isBlank).reverse

def trimChars (cs : List Char) : List Char := trimEnd (trimStart cs)

/-- The text without the white space at its ends. -/
def trim (s : String) : String := String.ofList (trimChars s.toList)

/-- The text behind at least `n` blanks, without blanks at its end. Where nothing but blanks
follow and there are more than `n`, the last of them is taken for the text. -/
def behindBlanks? (n : Nat) (cs : List Char) : Option (List Char) :=
  let gap := cs.takeWhile isBlank
  let text := cs.dropWhile isBlank
  if text.isEmpty then (if n < gap.length then gap.getLast?.map ([·]) else none)
  else if n ≤ gap.length then some (trimEnd text)
  else none

/-- The pieces between the separators; there is always one more than there are separators. -/
def fields (sep : Char) : List Char → List (List Char)
  | [] => [[]]
  | c :: rest =>
    if c = sep then [] :: fields sep rest
    else match fields sep rest with
      | [] => [[c]]
      | piece :: pieces => (c :: piece) :: pieces

/-- The pieces of a text. -/
def split (sep : Char) (s : String) : List String := (fields sep s.toList).map String.ofList

/-- What stands before and behind each separator, the first separator first. -/
def cuts (sep : Char) : List Char → List (List Char × List Char)
  | [] => []
  | c :: rest =>
    let later := (cuts sep rest).map fun p => (c :: p.1, p.2)
    if c = sep then ([], rest) :: later else later

/-- What stands before and behind the first separator. -/
def cut? (sep : Char) : List Char → Option (List Char × List Char)
  | [] => none
  | c :: rest => if c = sep then some ([], rest) else (cut? sep rest).map fun p => (c :: p.1, p.2)

/-- A carriage return in front of the line feed that ends a line is not part of the line. -/
def dropReturn (line : List Char) : List Char :=
  match line.getLast? with
  | some '\r' => line.dropLast
  | _ => line

/-- The lines of a text. What follows the last line feed is a line unless it is empty. -/
def lines (cs : List Char) : List (List Char) :=
  match (fields '\n' cs).reverse with
  | [] => []
  | last :: ended => (ended.map dropReturn).reverse ++ (if last.isEmpty then [] else [last])

/-- The value of a hexadecimal digit of either case. -/
def hexValue? (c : Char) : Option Nat :=
  if '0' ≤ c ∧ c ≤ '9' then some (c.toNat - 48)
  else if 'a' ≤ c ∧ c ≤ 'f' then some (c.toNat - 87)
  else if 'A' ≤ c ∧ c ≤ 'F' then some (c.toNat - 55)
  else none

/-- The number that hexadecimal digits denote. -/
def hexNumber? (ds : List Char) : Option Nat :=
  ds.foldlM (fun n d => (hexValue? d).map fun v => n * 16 + v) 0

def lowerHexDigit (n : Nat) : Char := if n < 10 then Char.ofNat (48 + n) else Char.ofNat (87 + n)

def upperHexDigit (n : Nat) : Char := if n < 10 then Char.ofNat (48 + n) else Char.ofNat (55 + n)

end Keyboards.Text
