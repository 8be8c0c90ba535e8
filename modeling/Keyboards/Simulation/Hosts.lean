import Keyboards.Ibus.Adaptor
import Keyboards.Xkb.Adaptor

/-! Simulated hosts, with system layouts and with input-method engines. Each is a state and a log of
what was asked of it. -/

namespace Keyboards.Simulation

/-- A state with the lines logged so far. -/
structure Traced (σ : Type) where
  state : σ
  log : List String := []
deriving DecidableEq, Repr

namespace Traced

variable {σ : Type}

/-- Adds a line to the log. -/
def note (line : String) : StateM (Traced σ) Unit := modify fun t => { t with log := t.log ++ [line] }

def read : StateM (Traced σ) σ := (·.state) <$> get

def write (f : σ → σ) : StateM (Traced σ) Unit := modify fun t => { t with state := f t.state }

end Traced

/-- A host with system layouts. A failure that is set befalls every call of its kind. -/
structure XkbHost where
  present : Bool := true
  rules : String := ""
  rulesError : Option AdaptorError := none
  /-- A report to give in place of one of the state. -/
  query : Option String := none
  queryError : Option AdaptorError := none
  layout : Option String := none
  variant : Option String := none
  setError : Option AdaptorError := none
deriving DecidableEq, Repr

namespace XkbHost

/-- A report of the layouts in use. -/
def report (layout variant : String) : String :=
  "rules:      evdev\nmodel:      pc105\nlayout:     " ++ layout ++ "\nvariant:    " ++ variant ++ "\n"

/-- The host tells what is stored and stores what it is told. -/
def host : Xkb.Host (StateM (Traced XkbHost)) where
  isPresent := do return (← Traced.read).present
  rules := do
    Traced.note "xkb host: rules"
    let h ← Traced.read
    match h.rulesError with
    | some e => return .error e
    | none => return .ok h.rules
  query := do
    Traced.note "xkb host: query"
    let h ← Traced.read
    match h.queryError with
    | some e => return .error e
    | none => return .ok (h.query.getD (report (h.layout.getD "") (h.variant.getD "")))
  setLayout code variant := do
    Traced.note ("xkb host: set_layout " ++ code ++ " " ++ variant.getD "<none>")
    match (← Traced.read).setError with
    | some e => return .error e
    | none => do
      Traced.write ({ · with layout := some code, variant := some (variant.getD "") })
      return .ok ()

end XkbHost

/-- A host with input-method engines, with failures of the same kinds. -/
structure IbusHost where
  present : Bool := true
  listing : String := ""
  listError : Option AdaptorError := none
  /-- The engine in use, if there is one. -/
  engine : Option String := none
  currentError : Option AdaptorError := none
  setError : Option AdaptorError := none
deriving DecidableEq, Repr

namespace IbusHost

/-- The host tells what is stored and stores what it is told. -/
def host : Ibus.Host (StateM (Traced IbusHost)) where
  isPresent := do return (← Traced.read).present
  listEngines := do
    Traced.note "ibus host: list_engines"
    let h ← Traced.read
    match h.listError with
    | some e => return .error e
    | none => return .ok h.listing
  currentEngine := do
    Traced.note "ibus host: current_engine"
    let h ← Traced.read
    match h.currentError with
    | some e => return .error e
    | none => return .ok (h.engine.getD "")
  setEngine name := do
    Traced.note ("ibus host: set_engine " ++ name)
    match (← Traced.read).setError with
    | some e => return .error e
    | none => do
      Traced.write ({ · with engine := some name })
      return .ok ()

end IbusHost

end Keyboards.Simulation
