import Keyboards.Focus
import Keyboards.Host.Error
import Keyboards.Keyboard

/-! Adaptors and what else surrounds a session: what it may ask of an input subsystem, and the
reports that it makes to its user and to its error log. -/

namespace Keyboards

/-- A program with which the user configures keyboards. -/
structure SetupProgram where
  program : String
  arguments : List String
deriving DecidableEq, Repr

/-- What an adaptor can be asked. -/
inductive Request where
  /-- Whether the subsystem exists on this host. -/
  | isApplicable
  /-- Takes hold of the subsystem. -/
  | start
  /-- Releases all that the adaptor holds. -/
  | close
  /-- The keyboards on offer, in a stable order. -/
  | enumerate
  | activate (keyboard : Keyboard)
  /-- Returns the subsystem to its neutral state. -/
  | deactivate (keyboard : Keyboard)
  /-- Describes a keyboard that was not enumerated. -/
  | describe (layout locale : String)
  /-- The system default keyboard. -/
  | defaultKeyboard
  /-- Layout and locale that the host uses now. -/
  | activeKeyboard
  | setupProgram
  /-- Whether the setup program stands beside that of the primary adaptor. -/
  | setupIsExtra
  | focus (event : FocusEvent)
deriving DecidableEq, Repr

/-- The type of the answer to a request. -/
abbrev Request.Answer : Request → Type
  | isApplicable => Bool
  | start => Except AdaptorError Unit
  | close => Unit
  | enumerate => Except AdaptorError (List Keyboard)
  | activate _ => Except AdaptorError Unit
  | deactivate _ => Unit
  | describe _ _ => Keyboard
  | defaultKeyboard => Option Keyboard
  | activeKeyboard => Option (String × String)
  | setupProgram => Option SetupProgram
  | setupIsExtra => Bool
  | focus _ => Unit

/-- A handle on an adaptor, with the two facts about it that never change. -/
structure Adaptor where
  handle : Nat
  name : String
  category : Category
deriving DecidableEq, Repr

/-- Someone outside who hears of focus targets. -/
structure Listener where
  name : String
deriving DecidableEq, Repr

/-- What a session tells its user or its error log. -/
inductive Report where
  /-- A problem that the user should hear of. -/
  | problem (message : String)
  /-- An entry of the event log. -/
  | event (message : String)
  /-- A property to attach to error reports. -/
  | property (key value : String)
deriving DecidableEq, Repr

/-- Reports in the order in which they were made. -/
abbrev Journal := List Report

namespace Journal

def problems (j : Journal) : List String :=
  j.filterMap fun | .problem m => some m | _ => none

def events (j : Journal) : List String :=
  j.filterMap fun | .event m => some m | _ => none

def properties (j : Journal) : List (String × String) :=
  j.filterMap fun | .property k v => some (k, v) | _ => none

/-- The latest value of a property. -/
def property? (j : Journal) (key : String) : Option String := j.properties.reverse.lookup key

end Journal

/-- What surrounds a session: it answers for the adaptors, tells the listeners and keeps the
reports. The answers may depend on anything that happened before. -/
structure Environment (m : Type → Type) where
  ask : Adaptor → (r : Request) → m r.Answer
  tell : Listener → FocusEvent → m Unit
  report : Report → m Unit

end Keyboards
