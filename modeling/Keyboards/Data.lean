/-! Values of the kind that settings files and records consist of. -/

namespace Keyboards

inductive Data where
  | null
  | bool (value : Bool)
  | integer (value : Int)
  /-- A number that is not written as an integer. -/
  | real (written : String)
  | text (value : String)
  | list (items : List Data)
  | table (entries : List (String × Data))

namespace Data

instance : Inhabited Data := ⟨null⟩

/-- The entries in the order of `names`: those of a table by name, those of a list by position.
A list may be short; one that is too long is refused unless `surplus` is set. -/
def fields? (surplus : Bool) (names : List String) : Data → Option (List (Option Data))
  | table entries => some (names.map fun n => entries.lookup n)
  | list items =>
    if surplus || items.length ≤ names.length then
      some ((List.range names.length).map fun i => items[i]?)
    else none
  | _ => none

def bool? : Data → Option Bool
  | bool b => some b
  | _ => none

def text? : Data → Option String
  | text s => some s
  | _ => none

def texts? : Data → Option (List String)
  | list items => items.mapM text?
  | _ => none

/-- A text or nothing. -/
def optionalText? : Data → Option (Option String)
  | null => some none
  | text s => some (some s)
  | _ => none

/-- The entries of a table of texts. -/
def textEntries? : Data → Option (List (String × String))
  | table entries => entries.mapM fun e => (e.2.text?).map fun s => (e.1, s)
  | _ => none

/-- A field that may be missing. One that is there has to be of the right kind. -/
def orDefault {α : Type} (read : Data → Option α) (fallback : α) : Option Data → Option α
  | some d => read d
  | none => some fallback

def ofOption (f : α → Data) : Option α → Data
  | some a => f a
  | none => null

def texts (ss : List String) : Data := list (ss.map text)

end Data

end Keyboards
