import Keyboards.Json.Printer
import Keyboards.Json.Reader
import Keyboards.WritingSystem

/-! Writing systems as JSON records. -/

namespace Keyboards.WritingSystem

/-- The record of a writing system. The chosen keyboard is not part of it. -/
def toJson (ws : WritingSystem) : String :=
  Json.compactObject ([("language_tag", ws.languageTag)] ++
    (ws.windowsId.toList.map fun s => ("windows_lcid", s)) ++
    (ws.keyboardName.toList.map fun s => ("keyboard", s)))

/-- A text, or null for none. -/
def optionalField? : Json.Value → Option (Option String)
  | .null => some none
  | .string (some s) => some (some s)
  | _ => none

/-- The values of the members of one name. -/
def named (name : String) (members : List (Option String × Json.Value)) : List Json.Value :=
  (members.filter (·.1 = some name)).map (·.2)

/-- A member that may be missing but not be there twice. -/
def optionalMember? (name : String) (members : List (Option String × Json.Value)) :
    Option (Option String) :=
  match named name members with
  | [] => some none
  | [v] => optionalField? v
  | _ => none

/-- A writing system as an object, or as an array of its fields in order. -/
def ofJson? : Json.Value → Option WritingSystem
  | .object members =>
    if members.any (·.1.isNone) then none
    else match named "language_tag" members with
      | [.string (some tag)] => do
        let windowsId ← optionalMember? "windows_lcid" members
        let keyboardName ← optionalMember? "keyboard" members
        some { languageTag := tag, windowsId, keyboardName }
      | _ => none
  | .array [.string (some tag)] => some { languageTag := tag }
  | .array [.string (some tag), id] => do
    some { languageTag := tag, windowsId := ← optionalField? id }
  | .array [.string (some tag), id, name] => do
    some { languageTag := tag, windowsId := ← optionalField? id,
           keyboardName := ← optionalField? name }
  | _ => none

/-- Reads a record. -/
def read? (text : String) : Option WritingSystem := (Json.read? text).bind ofJson?

end Keyboards.WritingSystem
