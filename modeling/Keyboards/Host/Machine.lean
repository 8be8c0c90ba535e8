import Keyboards.Host.Error
import Keyboards.Text.Basic
import Keyboards.Text.Utf8

/-! Files and programs of a host. -/

namespace Keyboards

/-- How a program ended. -/
inductive ExitStatus where
  | exited (code : UInt8)
  /-- Ended by signal 9. -/
  | killed
deriving DecidableEq, Repr

def ExitStatus.describe : ExitStatus → String
  | exited code => "exit status: " ++ toString code.toNat
  | killed => "signal: 9 (SIGKILL)"

/-- What a program that ran left behind. -/
structure ProgramResult where
  status : ExitStatus := .exited 0
  output : List UInt8 := []
  errors : List UInt8 := []
deriving DecidableEq, Repr

/-- What a host lets its users do. -/
structure Machine (m : Type → Type) where
  run : (program : String) → (arguments : List String) → m (Except IoError ProgramResult)
  readFile : (path : String) → m (Except IoError (List UInt8))
  fileExists : (path : String) → m Bool
  /-- Whether there is a display. -/
  hasDisplay : m Bool

/-- The output of a program that succeeded. -/
def ProgramResult.output? (program : String) (r : ProgramResult) : Except AdaptorError String :=
  if r.status = .exited 0 then .ok (Text.Utf8.decodeLossy r.output)
  else .error (.commandFailed program r.status.describe
    (Text.trim (Text.Utf8.decodeLossy r.errors)))

namespace Machine

variable {m : Type → Type} [Monad m] (machine : Machine m)

/-- Runs a program for its output. -/
def outputOf (program : String) (arguments : List String) : m (Except AdaptorError String) := do
  match ← machine.run program arguments with
  | .ok r => pure (r.output? program)
  | .error e => pure (.error (.io e))

/-- Whether a program runs and succeeds. -/
def succeeds (program : String) (arguments : List String) : m Bool := do
  match ← machine.outputOf program arguments with
  | .ok _ => pure true
  | .error _ => pure false

/-- Runs a program for its effect. -/
def carryOut (program : String) (arguments : List String) : m (Except AdaptorError Unit) := do
  pure ((← machine.outputOf program arguments).map fun _ => ())

/-- The text of a file. -/
def textOf (path : String) : m (Except IoError String) := do
  match ← machine.readFile path with
  | .error e => pure (.error e)
  | .ok bytes =>
    match Text.Utf8.decode? bytes with
    | some text => pure (.ok text)
    | none => pure (.error .invalidText)

end Machine

end Keyboards
