/-! Texts as UTF-8 bytes. -/

namespace Keyboards.Text.Utf8

def isTail (b : UInt8) : Bool := 0x80 ≤ b && b ≤ 0xBF

/-- How many bytes follow a first byte, and between which bounds the next one lies. -/
def shape? (b : UInt8) : Option (Nat × UInt8 × UInt8) :=
  if 0xC2 ≤ b && b ≤ 0xDF then some (1, 0x80, 0xBF)
  else if b == 0xE0 then some (2, 0xA0, 0xBF)
  else if b == 0xED then some (2, 0x80, 0x9F)
  else if 0xE1 ≤ b && b ≤ 0xEF then some (2, 0x80, 0xBF)
  else if b == 0xF0 then some (3, 0x90, 0xBF)
  else if 0xF1 ≤ b && b ≤ 0xF3 then some (3, 0x80, 0xBF)
  else if b == 0xF4 then some (3, 0x80, 0x8F)
  else none

/-- The bits of a first byte that belong to the character. -/
def leadBits (tails : Nat) (b : UInt8) : Nat :=
  match tails with
  | 1 => b.toNat % 0x20
  | 2 => b.toNat % 0x10
  | _ => b.toNat % 0x08

/-- The tail bytes at the front, at most `n`, the first within its bounds. -/
def tailRun (n : Nat) (low high : UInt8) : List UInt8 → List UInt8
  | [] => []
  | b :: rest =>
    match n with
    | 0 => []
    | n + 1 => if low ≤ b && b ≤ high then b :: tailRun n 0x80 0xBF rest else []

/-- The characters of a byte sequence. Each longest part that could begin a character and does
not complete one gives `none`, as does each byte that can begin none. -/
def scan (bs : List UInt8) : List (Option Char) :=
  match bs with
  | [] => []
  | b :: rest =>
    if b < 0x80 then some (Char.ofNat b.toNat) :: scan rest
    else match shape? b with
      | none => none :: scan rest
      | some (n, low, high) =>
        let tails := tailRun n low high rest
        (if tails.length = n then
          some (Char.ofNat (tails.foldl (fun k t => k * 0x40 + t.toNat % 0x40) (leadBits n b)))
        else none) :: scan (rest.drop tails.length)
termination_by bs.length

/-- Decodes bytes that are all well formed. -/
def decode? (bs : List UInt8) : Option String := ((scan bs).mapM id).map String.ofList

/-- Decodes any bytes; what is malformed becomes U+FFFD. -/
def decodeLossy (bs : List UInt8) : String :=
  String.ofList ((scan bs).map fun c => c.getD '\uFFFD')

end Keyboards.Text.Utf8
