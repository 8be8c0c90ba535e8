import Keyboards.Toml.Lexical
import Keyboards.Toml.Scalar
import Keyboards.Toml.Table

/-! TOML documents: values of any depth, lines, and the table that the lines build. -/

namespace Keyboards.Toml

mutual

/-- A value and what follows it. The first argument bounds the nesting of lists and tables, the
second one the number of steps. -/
def value? (depth : Nat) : Nat → List Char → Option (Data × List Char)
  | 0, _ => none
  | fuel + 1, cs =>
    match cs with
    | '"' :: _ | '\'' :: _ => (string? cs).map fun (s, rest) => (.text (String.ofList s), rest)
    | '[' :: rest =>
      if depth = 0 then none
      else (items? (depth - 1) fuel rest).map fun (ds, rest) => (.list ds, rest)
    | '\x7b' :: rest =>
      if depth = 0 then none
      else match skipBlanks rest with
        | '\x7d' :: rest => some (.table [], rest)
        | rest => do
          let (es, rest) ← entries? (depth - 1) fuel [] rest
          some (.table (entriesData es), rest)
    | _ => scalarValue? cs

/-- The items of a list up to its end. A comma may follow the last one. -/
def items? (depth : Nat) : Nat → List Char → Option (List Data × List Char)
  | 0, _ => none
  | fuel + 1, cs =>
    match skipTrivia false cs with
    | ']' :: rest => some ([], rest)
    | cs => do
      let (d, rest) ← value? depth fuel cs
      match skipTrivia false rest with
      | ',' :: rest => (items? depth fuel rest).map fun (ds, rest) => (d :: ds, rest)
      | ']' :: rest => some ([d], rest)
      | _ => none

/-- The entries of a table on one line up to its end. -/
def entries? (depth : Nat) : Nat → Entries → List Char → Option (Entries × List Char)
  | 0, _, _ => none
  | fuel + 1, es, cs => do
    let (path, rest) ← key? cs
    match rest with
    | '=' :: rest => do
      let (d, rest) ← value? depth fuel (skipBlanks rest)
      let es ← assign path d es
      match skipBlanks rest with
      | ',' :: rest => entries? depth fuel es rest
      | '\x7d' :: rest => some (es, rest)
      | _ => none
    | _ => none

end

/-- A line that says something. -/
inductive Statement where
  | table (path : List String)
  | item (path : List String)
  | assign (path : List String) (d : Data)

/-- Lists and tables on one line nest less than eighty deep. -/
def maxDepth : Nat := 79

/-- The statement at the start of a text, and what follows its line. -/
def statement? (cs : List Char) : Option (Statement × List Char) :=
  match cs with
  | '[' :: '[' :: rest => do
    let (path, rest) ← key? rest
    match rest with
    | ']' :: ']' :: rest => (lineRest? rest).map fun rest => (.item path, rest)
    | _ => none
  | '[' :: rest => do
    let (path, rest) ← key? rest
    match rest with
    | ']' :: rest => (lineRest? rest).map fun rest => (.table path, rest)
    | _ => none
  | cs => do
    let (path, rest) ← key? cs
    match rest with
    | '=' :: rest => do
      let (d, rest) ← value? maxDepth (cs.length + 1) (skipBlanks rest)
      (lineRest? rest).map fun rest => (.assign path d, rest)
    | _ => none

/-- The statements of a text. The first argument bounds the number of lines. -/
def statements? : Nat → List Char → Option (List Statement)
  | 0, _ => none
  | fuel + 1, cs =>
    match skipBlanks cs with
    | [] => some []
    | '\n' :: rest => statements? fuel rest
    | '\r' :: rest => (lineEnd? ('\r' :: rest)).bind (statements? fuel)
    | '#' :: rest => (lineRest? ('#' :: rest)).bind (statements? fuel)
    | cs => do
      let (s, rest) ← statement? cs
      (statements? fuel rest).map (s :: ·)

/-- The table that statements build, behind a header with the path `section`. -/
def build? (here : List String) (es : Entries) : List Statement → Option Entries
  | [] => some es
  | .table path :: rest => (openTable path es).bind fun es => build? path es rest
  | .item path :: rest => (openItem path es).bind fun es => build? path es rest
  | .assign path d :: rest =>
    (atPath false (fun _ es => assign path d es) here .header es).bind fun es => build? here es rest

/-- Reads a document. A byte order mark at its start does not count. -/
def read? (text : String) : Option Data := do
  let cs := match text.toList with
    | '\uFEFF' :: rest => rest
    | cs => cs
  let statements ← statements? (cs.length + 1) cs
  some (.table (entriesData (← build? [] [] statements)))

end Keyboards.Toml
