import Keyboards.Host.Error
import Keyboards.Text.Basic

/-! The texts in which a host names system layouts: a single name such as `de(nodeadkeys)`, the rules
list of every layout and variant that it knows, and its report of those in use. -/

namespace Keyboards.Xkb

/-- The name of a layout, or of a variant of it; an empty variant is none. -/
def joinName (code : String) (variant : Option String) : String :=
  match variant with
  | some v => if v = "" then code else code ++ "(" ++ v ++ ")"
  | none => code

/-- The text in front of a closing parenthesis at the end. -/
def unclose? (cs : List Char) : Option (List Char) :=
  match cs.getLast? with
  | some ')' => some cs.dropLast
  | _ => none

/-- Code and variant. What opens a parenthesis and does not close it at the end is no variant. -/
def splitName (name : String) : String × Option String :=
  match Text.cut? '(' name.toList with
  | some (code, rest) =>
    (String.ofList code, ((unclose? rest).filter (!·.isEmpty)).map String.ofList)
  | none => (name, none)

/-- A layout, or a variant of one. -/
structure Layout where
  code : String
  variant : Option String
  description : String
deriving DecidableEq, Repr

def Layout.name (l : Layout) : String := joinName l.code l.variant

/-- A block of the rules list. -/
inductive Block where
  | layouts
  | variants
  | other
deriving DecidableEq, Repr

namespace Rules

/-- The block that a header line opens. -/
def header? : List Char → Option Block
  | '!' :: rest =>
    match String.ofList (Text.trimChars rest) with
    | "layout" => some .layouts
    | "variant" => some .variants
    | _ => some .other
  | _ => none

/-- Name and description on an indented line. -/
def item? (line : List Char) : Option (List Char × List Char) :=
  let indented := line.dropWhile Text.isBlank
  let name := indented.takeWhile (!Text.isBlank ·)
  if indented.length = line.length || name.isEmpty then none
  else (Text.behindBlanks? 1 (indented.dropWhile (!Text.isBlank ·))).map fun d => (name, d)

/-- Code and text of a description such as `de: German (no dead keys)`. -/
def variantOf? (description : List Char) : Option (List Char × List Char) :=
  let isCode := fun c => c ≠ ':' && !Text.isBlank c
  let code := description.takeWhile isCode
  match description.dropWhile isCode with
  | ':' :: rest =>
    let text := Text.trimStart rest
    if code.isEmpty then none
    else if text.isEmpty then rest.getLast?.map fun c => (code, [c])
    else some (code, text)
  | _ => none

/-- The layout on a line of a block. -/
def layout? (block : Block) (line : List Char) : Option Layout :=
  match block with
  | .other => none
  | .layouts =>
    (item? line).map fun (name, d) => ⟨String.ofList name, none, String.ofList d⟩
  | .variants => do
    let (name, d) ← item? line
    let (code, text) ← variantOf? d
    some ⟨String.ofList code, some (String.ofList name), String.ofList text⟩

/-- The layouts on lines, the first of which is in `block`, in their order. -/
def layoutsFrom (block : Block) : List (List Char) → List Layout
  | [] => []
  | line :: rest =>
    match header? line with
    | some next => layoutsFrom next rest
    | none => (layout? block line).toList ++ layoutsFrom block rest

/-- Reads a rules list, which has to have a block of layouts. -/
def read (content : String) : Except AdaptorError (List Layout) :=
  let lines := Text.lines content.toList
  if lines.any (header? · = some .layouts) then .ok (layoutsFrom .other lines)
  else .error (.unexpectedOutput "rules list has no \x60! layout\x60 section")

end Rules

structure Query where
  rules : Option String := none
  model : Option String := none
  /-- The layouts in use; the first one is in effect. -/
  layouts : List String := []
  variants : List String := []
deriving DecidableEq, Repr

namespace Query

/-- The name of the layout in effect. -/
def current? (q : Query) : Option String :=
  q.layouts.head?.map fun code => joinName code q.variants.head?

/-- A list such as `de,us`. -/
def items (value : List Char) : List String :=
  (Text.fields ',' value).map fun f => String.ofList (Text.trimChars f)

/-- Takes in a line `key: value`. Later lines win, and other keys do not count. -/
def addLine (q : Query) (line : List Char) : Query :=
  match Text.cut? ':' line with
  | none => q
  | some (key, rest) =>
    let value := Text.trimChars rest
    match String.ofList key with
    | "rules" => { q with rules := some (String.ofList value) }
    | "model" => { q with model := some (String.ofList value) }
    | "layout" => { q with layouts := items value }
    | "variant" => { q with variants := items value }
    | _ => q

/-- Reads a report, which has to name layouts. -/
def read (output : String) : Except AdaptorError Query :=
  let q := (Text.lines output.toList).foldl addLine {}
  if q.layouts.isEmpty then
    .error (.unexpectedOutput "could not find the layout entry in setxkbmap output")
  else .ok q

end Query

end Keyboards.Xkb
