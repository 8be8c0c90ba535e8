import Keyboards.Adaptor

/-! A scripted adaptor, which answers as it is told to and logs what it is asked. -/

namespace Keyboards.Simulation

structure Script where
  name : String := ""
  category : Category := .primary
  applicable : Bool := true
  failStart : Option AdaptorError := none
  failEnumerate : Option AdaptorError := none
  keyboards : List Keyboard := []
  /-- Failures to activate, by layout. -/
  failActivate : List (String × AdaptorError) := []
  default : Option Keyboard := none
  hostActive : Option (String × String) := none
  setup : Option SetupProgram := none
  setupIsExtra : Bool := false
  /-- Whether requests are logged. -/
  logs : Bool := true
deriving DecidableEq, Repr

namespace Script

def orFail (failure : Option AdaptorError) : Except AdaptorError Unit :=
  match failure with
  | some e => .error e
  | none => .ok ()

/-- The line that a request leaves in the log. -/
def line? : Request → Option String
  | .start => some "initialize"
  | .close => some "close"
  | .enumerate => some "enumerate"
  | .activate k => some ("activate " ++ k.layout ++ "|" ++ k.locale)
  | .deactivate k => some ("deactivate " ++ k.layout ++ "|" ++ k.locale)
  | .focus event => some event.describe
  | _ => none

/-- How the adaptor answers. -/
def reply (s : Script) : (r : Request) → r.Answer
  | .isApplicable => s.applicable
  | .start => orFail s.failStart
  | .close => ()
  | .enumerate => (orFail s.failEnumerate).map fun _ => s.keyboards
  | .activate k => orFail (s.failActivate.lookup k.layout)
  | .deactivate _ => ()
  | .describe layout locale =>
    { Keyboard.make layout locale s.category s.name with available := false }
  | .defaultKeyboard => s.default
  | .activeKeyboard => s.hostActive
  | .setupProgram => s.setup
  | .setupIsExtra => s.setupIsExtra
  | .focus _ => ()

/-- The answer to a request, and what is logged of it. -/
def answer (s : Script) (r : Request) : r.Answer × List String :=
  (s.reply r, if s.logs then (line? r).toList.map fun l => s.name ++ ": " ++ l else [])

end Script

end Keyboards.Simulation
