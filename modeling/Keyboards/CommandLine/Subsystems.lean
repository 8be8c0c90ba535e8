import Keyboards.Host.Machine
import Keyboards.Ibus.Adaptor
import Keyboards.Xkb.Adaptor

/-! The adaptors that the command line program works with, on a machine: the layout program and the
client program of the input methods are its hosts. -/

namespace Keyboards.Xkb

variable {m : Type → Type} [Monad m] (machine : Machine m) (settings : XkbSettings)

/-- The host is there if a display, the rules list and the program are. -/
def isPresent : m Bool := do
  if ← machine.hasDisplay then
    if ← machine.fileExists settings.rulesPath then machine.succeeds settings.program ["-version"]
    else pure false
  else pure false

/-- An empty variant clears that of the layout before. -/
def systemHost : Host m where
  isPresent := isPresent machine settings
  rules := do
    match ← machine.textOf settings.rulesPath with
    | .ok text => pure (.ok text)
    | .error e => pure (.error (.io e))
  query := machine.outputOf settings.program ["-query"]
  setLayout code variant :=
    machine.carryOut settings.program ["-layout", code, "-variant", variant.getD ""]

end Keyboards.Xkb

namespace Keyboards.Ibus

variable {m : Type → Type} [Monad m] (machine : Machine m) (settings : IbusSettings)

/-- The name of the engine in use, which must not be blank. -/
def reportedEngine (output : String) : Except AdaptorError String :=
  let name := Text.trim output
  if name = "" then .error (.unexpectedOutput "ibus reported no engine") else .ok name

def systemHost : Host m where
  isPresent := machine.succeeds settings.program ["version"]
  listEngines := machine.outputOf settings.program ["list-engine"]
  currentEngine := do
    match ← machine.outputOf settings.program ["engine"] with
    | .ok output => pure (reportedEngine output)
    | .error e => pure (.error e)
  setEngine name := machine.carryOut settings.program ["engine", name]

end Keyboards.Ibus

namespace Keyboards.CommandLine

/-- What the adaptors keep. -/
structure Subsystems where
  xkb : Xkb.State
  ibus : Ibus.State

namespace Subsystems

def ofSettings (s : Settings) : Subsystems := ⟨{ settings := s.xkb }, { settings := s.ibus }⟩

/-- The adaptors on offer. -/
def offered : List Adaptor :=
  [⟨0, Xkb.adaptorName, .primary⟩, ⟨1, Ibus.adaptorName, .secondary⟩]

variable {m : Type → Type} [Monad m] (machine : Machine m)

/-- Has the adaptor of a category answer. -/
def ask (c : Category) (r : Request) (s : Subsystems) : m (r.Answer × Subsystems) :=
  match c with
  | .primary => do
    let (a, xkb) ← Xkb.answer (Xkb.systemHost machine s.xkb.settings) s.xkb r
    pure (a, { s with xkb })
  | .secondary => do
    let (a, ibus) ← Ibus.answer (Ibus.systemHost machine s.ibus.settings) s.ibus r
    pure (a, { s with ibus })

/-- The environment of a session on a machine. Nobody listens, and reports are not kept. -/
def environment : Environment (StateT Subsystems m) where
  ask a r := fun s => ask machine a.category r s
  tell _ _ := pure ()
  report _ := pure ()

end Subsystems

end Keyboards.CommandLine
