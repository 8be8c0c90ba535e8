import Keyboards.Adaptor
import Keyboards.Catalog
import Keyboards.Settings
import Keyboards.WritingSystem

/-! Sessions: the installed adaptors, the catalog they filled and the keyboard in use. -/

namespace Keyboards

inductive SessionError where
  | noPrimaryAdaptor
  /-- The session was shut down before. -/
  | disposed
deriving DecidableEq, Repr

def SessionError.message : SessionError → String
  | noPrimaryAdaptor => "no applicable adaptor for primary system keyboards could be installed"
  | disposed => "keyboard controller used after shutdown"

/-- What came of a request to activate a keyboard. -/
inductive Activation where
  | activated
  /-- There was nothing to activate. -/
  | noKeyboard
  /-- The keyboard in use stays in use. -/
  | failed
deriving DecidableEq, Repr

/-- The adaptors in use, one for each category, with the keyboards that they contributed. -/
structure Installed where
  primary : Adaptor
  secondary : Option Adaptor
  catalog : Catalog
  /-- The keyboard in use, an entry of the catalog or zero. -/
  active : Keyboard

namespace Installed

variable (i : Installed)

/-- The adaptors, the primary one first. -/
def adaptors : List Adaptor := i.primary :: i.secondary.toList

def names : List String := i.adaptors.map (·.name)

/-- The adaptor that serves a category. -/
def serving : Category → Option Adaptor
  | .primary => some i.primary
  | .secondary => i.secondary

end Installed

/-- A session. After its shutdown nothing is installed. -/
structure Session where
  settings : SessionSettings
  installed : Option Installed
  /-- The identifiers that the user was told about. -/
  warned : List String
  targets : FocusTargets
  /-- In the order in which they were added. -/
  listeners : List Listener

namespace Session

variable (s : Session)

def isDisposed : Bool := s.installed.isNone

/-- What is installed, unless the session was shut down. -/
def get : Except SessionError Installed :=
  match s.installed with
  | some i => .ok i
  | none => .error .disposed

def catalog : Except SessionError Catalog := s.get.map (·.catalog)

def adaptorNames : Except SessionError (List String) := s.get.map (·.names)

/-- The keyboard that an identifier names, or zero. -/
def resolve (id : String) : Except SessionError Keyboard := s.catalog.map (·.resolve id)

/-- The keyboard with a key, or zero. -/
def lookup (layout locale : String) : Except SessionError Keyboard :=
  s.catalog.map (·.getOrZero layout locale)

/-- The keyboard chosen for a writing system, or zero. -/
def chosenFor (ws : WritingSystem) : Except SessionError Keyboard := s.get.map fun _ => ws.chosen

/-- The first keyboard filed under a language, or zero. Layout names reported by hosts are not
reliable, so the whole language has to agree. -/
def ofLanguage (language : Language) : Except SessionError Keyboard :=
  s.catalog.map fun c => (c.find? (·.language = some language)).getD .zero

def allKeyboards : Except SessionError (List Keyboard) := s.catalog.map (·.toList)

def availableKeyboards : Except SessionError (List Keyboard) := s.catalog.map (·.available)

/-- The keyboard that the obsolete fields of a writing system name, if the settings let them. -/
def legacyFor (ws : WritingSystem) : Except SessionError (Option Keyboard) :=
  s.catalog.map fun c => if s.settings.legacyLookup then ws.legacy? c else none

def isRegistered (t : FocusTarget) : Except SessionError Bool :=
  s.get.map fun _ => s.targets.contains t

def handlerOf (t : FocusTarget) : Except SessionError (Option Handler) :=
  s.get.map fun _ => s.targets.handler? t

def targetCount : Except SessionError Nat := s.get.map fun _ => s.targets.length

end Session

end Keyboards
