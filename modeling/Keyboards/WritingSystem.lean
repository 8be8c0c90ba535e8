import Keyboards.Catalog

/-! Writing systems: a language with the keyboard chosen for it, or with two obsolete fields that
name one. An old keyboard name is a layout and a locale joined by dashes. -/

namespace Keyboards

namespace LegacyName

def joinDashes : List (List Char) → List Char := List.intercalate ['-']

/-- The locale is what follows the first of at most three segments. A longer name ends in a
locale of two segments, because layouts have dashes of their own. -/
def localeChars (name : List Char) : List Char :=
  let segments := Text.fields '-' name
  if segments.length ≤ 3 then joinDashes (segments.drop 1)
  else joinDashes (segments.drop (segments.length - 2))

/-- The layout is the name without its locale and the dash before it. -/
def layoutChars (name : List Char) : List Char :=
  let locale := localeChars name
  if locale.isEmpty then name else name.take (name.length - (locale.length + 1))

def locale (name : String) : String := String.ofList (localeChars name.toList)

def layout (name : String) : String := String.ofList (layoutChars name.toList)

end LegacyName

/-- A writing system with the two fields in which old records name its keyboard. -/
structure WritingSystem where
  languageTag : String
  windowsId : Option String := none
  keyboardName : Option String := none
  /-- The keyboard chosen for it. -/
  keyboard : Option Keyboard := none
deriving DecidableEq, Repr

namespace WritingSystem

/-- The content of a field that is present and not empty. -/
def given (field : Option String) : Option String := field.filter (· ≠ "")

/-- The keyboard chosen for the writing system, or zero. -/
def chosen (ws : WritingSystem) : Keyboard := ws.keyboard.getD .zero

/-- By numeric identifier: without a keyboard name the first primary keyboard of that language,
even if several share it; with one the keyboard of that layout in the locale of the identifier. -/
def legacyById? (c : Catalog) (id : Nat) : Option String → Option Keyboard
  | none => c.find? fun k => k.category = some .primary && k.lcid = some id
  | some name => (Locale.ofWindowsId? id).bind (c.get? name)

/-- By name: an old identifier, else layout and locale, else a layout alone. -/
def legacyByName? (c : Catalog) (name : String) : Option Keyboard :=
  let layout := LegacyName.layout name
  (if c.containsId name then c.getId? name else none) <|>
    c.get? layout (LegacyName.locale name) <|>
    c.find? (·.layout = name) <|>
    c.find? (·.layout = layout)

/-- The keyboard that the obsolete fields name, if any. The identifier is tried before the name. -/
def legacy? (c : Catalog) (ws : WritingSystem) : Option Keyboard :=
  let name := given ws.keyboardName
  ((given ws.windowsId).bind Locale.readWindowsId?).bind (legacyById? c · name) <|>
    name.bind (legacyByName? c)

end WritingSystem

end Keyboards
