import Keyboards.Data
import Keyboards.Text.Basic

/-! JSON text of data. -/

namespace Keyboards.Json

/-- A character inside a string. Only quotes, backslashes and control characters are escaped. -/
def escape (c : Char) : List Char :=
  match c with
  | '"' => ['\\', '"']
  | '\\' => ['\\', '\\']
  | '\n' => ['\\', 'n']
  | '\r' => ['\\', 'r']
  | '\t' => ['\\', 't']
  | '\x08' => ['\\', 'b']
  | '\x0c' => ['\\', 'f']
  | c =>
    let n := c.toNat
    if n < 0x20 then
      ['\\', 'u', '0', '0', Text.lowerHexDigit (n / 16), Text.lowerHexDigit (n % 16)]
    else [c]

/-- A string literal. -/
def quote (s : List Char) : List Char := '"' :: (s.flatMap escape ++ ['"'])

def quoted (s : String) : String := String.ofList (quote s.toList)

/-- An object on one line. -/
def compactObject (entries : List (String × String)) : String :=
  "\x7b" ++ ",".intercalate (entries.map fun e => quoted e.1 ++ ":" ++ quoted e.2) ++ "\x7d"

/-- A line break and the indentation of a level. -/
def newline (level : Nat) : String := "\n" ++ String.ofList (List.replicate (2 * level) ' ')

/-- Items between brackets, each on a line of its own. -/
def block (opening closing : String) (level : Nat) (items : List String) : String :=
  if items.isEmpty then opening ++ closing
  else opening ++ newline (level + 1) ++ ("," ++ newline (level + 1)).intercalate items ++
    newline level ++ closing

mutual

/-- Text of data over several lines, from an indentation level on. -/
def pretty (level : Nat) : Data → String
  | .null => "null"
  | .bool b => if b then "true" else "false"
  | .integer n => toString n
  | .real written => written
  | .text s => quoted s
  | .list items => block "[" "]" level (prettyItems (level + 1) items)
  | .table entries => block "\x7b" "\x7d" level (prettyEntries (level + 1) entries)

def prettyItems (level : Nat) : List Data → List String
  | [] => []
  | d :: rest => pretty level d :: prettyItems level rest

def prettyEntries (level : Nat) : List (String × Data) → List String
  | [] => []
  | (name, d) :: rest => (quoted name ++ ": " ++ pretty level d) :: prettyEntries level rest

end

end Keyboards.Json
