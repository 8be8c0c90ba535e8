import Keyboards.Data
import Keyboards.Text.Basic

/-! TOML text of a table whose entries are simple values, lists and at most one level of tables, and
the written form of the texts and keys in it. -/

namespace Keyboards.Toml

/-- What a text holds that bears on its written form. -/
structure Traits where
  lineFeed : Bool
  backslash : Bool
  /-- A control character other than tab and line feed. -/
  control : Bool
  /-- The longest runs of double and of single quotes. -/
  doubles : Nat
  singles : Nat
deriving DecidableEq, Repr

/-- The length of the longest run of a character; `now` counts the run that is going on. -/
def longestRun (q : Char) (now : Nat) : List Char → Nat
  | [] => now
  | c :: rest => if c = q then longestRun q (now + 1) rest else max now (longestRun q 0 rest)

def isControl (c : Char) : Bool := c.toNat < 0x20 || c.toNat = 0x7F

def traits (cs : List Char) : Traits where
  lineFeed := cs.contains '\n'
  backslash := cs.contains '\\'
  control := cs.any fun c => isControl c && c ≠ '\t' && c ≠ '\n'
  doubles := longestRun '"' 0 cs
  singles := longestRun '\'' 0 cs

/-- The ways to write a text. -/
inductive Form where
  | basic
  | literal
  | multilineBasic
  | multilineLiteral
deriving DecidableEq, Repr

/-- Plain double quotes are best; other forms save escapes. A text with control characters that no
form can hold as they are is escaped, over several lines if it has line feeds. -/
def Traits.form (t : Traits) : Form :=
  if !t.control && !t.backslash && t.doubles = 0 && !t.lineFeed then .basic
  else if !t.control && t.singles = 0 && !t.lineFeed then .literal
  else if !t.control && !t.backslash && t.doubles ≤ 2 then .multilineBasic
  else if !t.control && t.singles ≤ 2 then .multilineLiteral
  else if t.lineFeed then .multilineBasic
  else .basic

/-- The form of a key that is not bare; keys stand on one line. -/
def Traits.keyForm (t : Traits) : Form :=
  if !t.control && !t.lineFeed && !t.backslash && t.doubles = 0 then .basic
  else if !t.control && !t.lineFeed && t.singles = 0 then .literal
  else .basic

/-- A control character by its number. -/
def escapeCode (c : Char) : List Char :=
  ['\\', 'u', '0', '0', Text.upperHexDigit (c.toNat / 16), Text.upperHexDigit (c.toNat % 16)]

/-- Escapes a text for double quotes. In several lines up to two quotes in a row and line feeds
stand as they are; `run` counts the quotes since the last character that was something else. -/
def escape (multiline : Bool) (run : Nat) : List Char → List Char
  | [] => []
  | c :: rest =>
    match c with
    | '"' =>
      if multiline && run < 2 then '"' :: escape multiline (run + 1) rest
      else '\\' :: '"' :: escape multiline 0 rest
    | '\\' => '\\' :: '\\' :: escape multiline 0 rest
    | '\x08' => '\\' :: 'b' :: escape multiline 0 rest
    | '\t' => '\\' :: 't' :: escape multiline 0 rest
    | '\x0c' => '\\' :: 'f' :: escape multiline 0 rest
    | '\r' => '\\' :: 'r' :: escape multiline 0 rest
    | '\n' =>
      if multiline then '\n' :: escape multiline 0 rest
      else '\\' :: 'n' :: escape multiline 0 rest
    | c =>
      if isControl c then escapeCode c ++ escape multiline 0 rest
      else c :: escape multiline 0 rest

/-- A text in a form. A text with line feeds starts on a line of its own. -/
def Form.write (f : Form) (cs : List Char) : List Char :=
  let lead := if cs.contains '\n' then ['\n'] else []
  match f with
  | .basic => ['"'] ++ escape false 0 cs ++ ['"']
  | .literal => ['\''] ++ cs ++ ['\'']
  | .multilineBasic => ['"', '"', '"'] ++ lead ++ escape true 0 cs ++ ['"', '"', '"']
  | .multilineLiteral => ['\'', '\'', '\''] ++ lead ++ cs ++ ['\'', '\'', '\'']

/-- A text as a value. -/
def quote (s : String) : String :=
  let cs := s.toList
  String.ofList ((traits cs).form.write cs)

def isBareKey (cs : List Char) : Bool :=
  !cs.isEmpty && cs.all fun c => c.isAlphanum || c == '_' || c == '-'

/-- A text as a key. -/
def quoteKey (s : String) : String :=
  let cs := s.toList
  if isBareKey cs then s else String.ofList ((traits cs).keyForm.write cs)

/-- A simple value. -/
def writeScalar : Data → String
  | .bool b => if b then "true" else "false"
  | .integer n => toString n
  | .real written => written
  | .text s => quote s
  | _ => ""

/-- A list. Two or more items stand on lines of their own. -/
def writeList (items : List Data) : String :=
  match items with
  | [] => "[]"
  | [d] => "[" ++ writeScalar d ++ "]"
  | ds => "[\n" ++ String.join (ds.map fun d => "    " ++ writeScalar d ++ ",\n") ++ "]"

def writeValue : Data → String
  | .list items => writeList items
  | d => writeScalar d

def writeEntry (e : String × Data) : String := quoteKey e.1 ++ " = " ++ writeValue e.2 ++ "\n"

/-- Entries that stand under the header of their own table. -/
def isTable (e : String × Data) : Bool :=
  match e.2 with
  | .table _ => true
  | _ => false

def isSimple (e : String × Data) : Bool :=
  match e.2 with
  | .table _ | .null => false
  | _ => true

def writeSection (e : String × Data) : String :=
  match e.2 with
  | .table entries => "\n[" ++ quoteKey e.1 ++ "]\n" ++ String.join (entries.map writeEntry)
  | _ => ""

/-- A document: simple entries first, then tables. Entries without value are left out. -/
def write (entries : List (String × Data)) : String :=
  String.join ((entries.filter isSimple).map writeEntry) ++
    String.join ((entries.filter isTable).map writeSection)

end Keyboards.Toml
