import Keyboards.Data
import Keyboards.Text.Basic

/-! TOML values of one word: truth values, numbers, dates and times. -/

namespace Keyboards.Toml

/-- The characters of a word. None of them can follow a value directly. -/
def isWordChar (c : Char) : Bool := c.isAlphanum || "+-:._".toList.contains c

/-- Digits of a kind with single underscores between them. -/
def grouped? (isDigit : Char → Bool) : List Char → Option (List Char)
  | [] => none
  | [d] => if isDigit d then some [d] else none
  | d :: '_' :: e :: rest =>
    if isDigit d then (grouped? isDigit (e :: rest)).map (d :: ·) else none
  | d :: rest => if isDigit d then (grouped? isDigit rest).map (d :: ·) else none

/-- Sign and absolute text of a number. -/
def splitSign : List Char → Bool × List Char
  | '-' :: rest => (true, rest)
  | '+' :: rest => (false, rest)
  | cs => (false, cs)

/-- The digits of a whole number, which has no leading zeros. -/
def wholeDigits? (cs : List Char) : Option (List Char) :=
  match cs with
  | '0' :: _ :: _ => none
  | _ => grouped? Char.isDigit cs

def decimalValue (ds : List Char) : Nat := ds.foldl (fun n d => n * 10 + (d.toNat - 48)) 0

/-- A number with 64 bits and a sign. -/
def fits (n : Int) : Bool := -9223372036854775808 ≤ n && n ≤ 9223372036854775807

/-- Digits in a base whose prefix letter is given. -/
def inBase? (base : Nat) (cs : List Char) : Option Int := do
  let ds ← grouped? (fun c => match Text.hexValue? c with
    | some v => v < base
    | none => false) cs
  some (Int.ofNat (ds.foldl (fun n d => n * base + (Text.hexValue? d).getD 0) 0))

def integer? (cs : List Char) : Option Int := do
  let n ← match cs with
    | '0' :: 'x' :: rest => inBase? 16 rest
    | '0' :: 'o' :: rest => inBase? 8 rest
    | '0' :: 'b' :: rest => inBase? 2 rest
    | cs => do
      let (negative, cs) := splitSign cs
      let n := Int.ofNat (decimalValue (← wholeDigits? cs))
      some (if negative then -n else n)
  if fits n then some n else none

/-- The least number that is nearer to 2 ^ 1024 than to the largest number of 64-bit floating
point; it counts as infinite. -/
def overflowBound : Nat := Nat.pow 2 1024 - Nat.pow 2 970

/-- Whether the digits, times ten to the exponent, overflow. A number of so many digits needs an
exact comparison only if it has about as many places as the bound. -/
def overflows (digits : List Char) (exponent : Int) : Bool :=
  let digits := digits.dropWhile (· = '0')
  let n := decimalValue digits
  if digits.isEmpty || digits.length + exponent ≤ 308 then false
  else if 310 ≤ digits.length + exponent then true
  else if 0 ≤ exponent then overflowBound ≤ n * Nat.pow 10 exponent.toNat
  else overflowBound * Nat.pow 10 (-exponent).toNat ≤ n

/-- The exponent of a number, behind the letter. -/
def exponent? (cs : List Char) : Option Int := do
  let (negative, cs) := splitSign cs
  let n := Int.ofNat (decimalValue (← grouped? Char.isDigit cs))
  some (if negative then -n else n)

/-- A number with a fraction, an exponent or both. It has to be finite unless it is negative. -/
def real? (cs : List Char) : Option Data := do
  let (negative, body) := splitSign cs
  let written := Data.real (String.ofList cs)
  match String.ofList body with
  | "inf" | "nan" => some written
  | _ =>
    let isE := fun c => c == 'e' || c == 'E'
    let significand := body.takeWhile (!isE ·)
    let exponent ← match body.dropWhile (!isE ·) with
      | [] => some none
      | _ :: rest => (exponent? rest).map some
    let whole ← wholeDigits? (significand.takeWhile (· ≠ '.'))
    let fraction ← match significand.dropWhile (· ≠ '.') with
      | [] => some none
      | _ :: rest => (grouped? Char.isDigit rest).map some
    if exponent.isNone && fraction.isNone then none
    else
      let fraction := fraction.getD []
      let digits := whole ++ fraction
      let scale := exponent.getD 0 - fraction.length
      if !negative && overflows digits scale then none
      else some written

/-- Two digits of a number within bounds. -/
def twoDigits? (low high : Nat) (a b : Char) : Option Nat :=
  if a.isDigit && b.isDigit then
    let n := decimalValue [a, b]
    if low ≤ n ∧ n ≤ high then some n else none
  else none

def daysOf (year month : Nat) : Nat :=
  if month = 2 then if year % 4 = 0 ∧ (year % 100 ≠ 0 ∨ year % 400 = 0) then 29 else 28
  else if month = 4 ∨ month = 6 ∨ month = 9 ∨ month = 11 then 30
  else 31

/-- A day of the calendar in front of the rest of a word. -/
def date? : List Char → Option (List Char × List Char)
  | y :: y' :: y'' :: y''' :: '-' :: m :: m' :: '-' :: d :: d' :: rest => do
    let year := [y, y', y'', y''']
    let month ← twoDigits? 1 12 m m'
    let day ← twoDigits? 1 31 d d'
    if year.all Char.isDigit && day ≤ daysOf (decimalValue year) month then
      some (year ++ ['-', m, m', '-', d, d'], rest)
    else none
  | _ => none

/-- A fraction of a second counts to nine digits, and zeros at its end do not count. -/
def fractionText (ds : List Char) : List Char :=
  match ((ds.take 9).reverse.dropWhile (· = '0')).reverse with
  | [] => []
  | ds => '.' :: ds

/-- A time of day in front of the rest of a word. A minute may have a 61st second. -/
def time? : List Char → Option (List Char × List Char)
  | h :: h' :: ':' :: m :: m' :: ':' :: s :: s' :: rest => do
    let _ ← twoDigits? 0 23 h h'
    let _ ← twoDigits? 0 59 m m'
    let _ ← twoDigits? 0 60 s s'
    let time := [h, h', ':', m, m', ':', s, s']
    match rest with
    | '.' :: rest =>
      let ds := rest.takeWhile Char.isDigit
      if ds.isEmpty then none else some (time ++ fractionText ds, rest.dropWhile Char.isDigit)
    | rest => some (time, rest)
  | _ => none

/-- An offset from universal time, or none, up to the end of a word. -/
def offset? : List Char → Option (List Char)
  | [] => some []
  | ['Z'] | ['z'] => some ['Z']
  | [sign, h, h', ':', m, m'] => do
    let hours ← twoDigits? 0 23 h h'
    let minutes ← twoDigits? 0 59 m m'
    if sign = '+' then some ['+', h, h', ':', m, m']
    else if sign = '-' then
      some ((if hours = 0 ∧ minutes = 0 then '+' else '-') :: [h, h', ':', m, m'])
    else none
  | _ => none

/-- A time with its offset as a whole word. -/
def timeWord? (cs : List Char) : Option (List Char) := do
  let (time, rest) ← time? cs
  some (time ++ (← offset? rest))

/-- A date and a time, if there is one, as a whole word. -/
def dateWord? (cs : List Char) : Option (List Char) := do
  let (date, rest) ← date? cs
  match rest with
  | [] => some date
  | c :: rest =>
    if c = 'T' ∨ c = 't' then (timeWord? rest).map fun time => date ++ 'T' :: time else none

/-- A time without date has no offset. -/
def localTime? (cs : List Char) : Option (List Char) :=
  match time? cs with
  | some (time, []) => some time
  | _ => none

/-- A date or time counts as a table of one entry. -/
def momentData (moment : List Char) : Data :=
  .table [("$__toml_private_datetime", .text (String.ofList moment))]

/-- The value of a word. -/
def word? (cs : List Char) : Option Data :=
  match String.ofList cs with
  | "true" => some (.bool true)
  | "false" => some (.bool false)
  | _ => (integer? cs).map .integer <|> real? cs <|>
    (dateWord? cs <|> localTime? cs).map momentData

/-- A value of one word, or a date and a time with a blank between them, and what follows. -/
def scalarValue? (cs : List Char) : Option (Data × List Char) := do
  let w := cs.takeWhile isWordChar
  let rest := cs.dropWhile isWordChar
  match (date? w), rest with
  | some (date, []), ' ' :: d :: after =>
    if d.isDigit then do
      let time ← timeWord? ((d :: after).takeWhile isWordChar)
      some (momentData (date ++ 'T' :: time), (d :: after).dropWhile isWordChar)
    else some (momentData date, rest)
  | _, _ => (word? w).map fun d => (d, rest)

end Keyboards.Toml
