import Keyboards.Adaptor
import Keyboards.Ibus.Engine
import Keyboards.Settings

/-! The secondary adaptor: every input-method engine as a keyboard. -/

namespace Keyboards.Ibus

/-- What a host with input-method engines does when asked. -/
structure Host (m : Type → Type) where
  isPresent : m Bool
  /-- A listing of the engines. -/
  listEngines : m (Except AdaptorError String)
  /-- The name of the engine in use. -/
  currentEngine : m (Except AdaptorError String)
  setEngine : (name : String) → m (Except AdaptorError Unit)

def adaptorName : String := "ibus"

/-- What the adaptor keeps between requests. -/
structure State where
  settings : IbusSettings := {}
  /-- The engines on offer, while the adaptor is started. -/
  engines : List Engine := []
  /-- The targets that input methods are attached to. -/
  targets : FocusTargets := []
deriving DecidableEq, Repr

def keyboardOf (e : Engine) : Keyboard :=
  { Keyboard.make e.name e.locale .secondary adaptorName with name := e.description }

variable {m : Type → Type} [Monad m] (host : Host m)

/-- Switches to an engine unless the host reports it already. -/
def switchTo (name : String) : m (Except AdaptorError Unit) := do
  match ← host.currentEngine with
  | .ok current => if current = name then pure (.ok ()) else host.setEngine name
  | .error _ => host.setEngine name

/-- Reads the listing. Engines for system layouts count only if the settings ask for them. -/
def begin (s : State) : m (Except AdaptorError Unit × State) := do
  match ← host.listEngines with
  | .error e => pure (.error e, s)
  | .ok listing =>
    match Engine.readList listing with
    | .error e => pure (.error e, s)
    | .ok engines =>
      pure (.ok (), { s with
        engines := engines.filter fun e => s.settings.includeXkbEngines || !e.isXkb })

/-- Switches to the engine of a keyboard that is on offer. -/
def activate (s : State) (k : Keyboard) : m (Except AdaptorError Unit) :=
  if s.engines.any (·.name = k.layout) then switchTo host k.layout
  else pure (.error (.unknownKeyboard k.layout))

/-- Layout and locale of the engine in use, if it is on offer. -/
def active (s : State) : m (Option (String × String)) := do
  match ← host.currentEngine with
  | .ok name => pure ((s.engines.find? (·.name = name)).map fun e => (e.name, e.locale))
  | .error _ => pure none

/-- How the adaptor answers, and what it keeps afterwards. -/
def answer (s : State) : (r : Request) → m (r.Answer × State)
  | .isApplicable => do pure (← host.isPresent, s)
  | .start => begin host s
  | .close => pure ((), { s with engines := [], targets := [] })
  | .enumerate => pure (.ok (s.engines.map keyboardOf), s)
  | .activate k => do pure (← activate host s k, s)
  | .deactivate _ => do
    let _ ← switchTo host s.settings.neutralEngine
    pure ((), s)
  | .describe layout locale =>
    pure ({ Keyboard.make layout locale .secondary adaptorName with available := false }, s)
  | .defaultKeyboard => pure (none, s)
  | .activeKeyboard => do pure (← active host s, s)
  | .setupProgram => pure (s.settings.setupProgram.map (⟨·, []⟩), s)
  | .setupIsExtra => pure (true, s)
  | .focus event => pure ((), { s with targets := s.targets.apply event })

end Keyboards.Ibus
