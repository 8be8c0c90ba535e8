import Keyboards.Session.Basic

/-! What a session does beside keyboards: focus targets and those who hear of them, and the programs
with which the user sets keyboards up. -/

namespace Keyboards.Session

variable {m : Type → Type} [Monad m] (env : Environment m)

/-- Tells the adaptors, the primary one first, and then the listeners. -/
def deliver (s : Session) (i : Installed) (event : FocusEvent) : m Unit := do
  i.adaptors.forM fun a => env.ask a (.focus event)
  s.listeners.forM fun l => env.tell l event

/-- Registers a target. One that is registered gets the new handler. -/
def register (s : Session) (t : FocusTarget) (h : Option Handler) :
    m (Except SessionError Unit × Session) := do
  match s.installed with
  | none => pure (.error .disposed, s)
  | some i => do
    s.deliver env i (.added t h)
    pure (.ok (), { s with targets := s.targets.insert t h })

/-- Removes a target after all have heard of it. An unknown target is ignored. -/
def unregister (s : Session) (t : FocusTarget) : m (Except SessionError Unit × Session) := do
  match s.installed with
  | none => pure (.error .disposed, s)
  | some i =>
    if s.targets.contains t then do
      s.deliver env i (.removing t)
      pure (.ok (), { s with targets := s.targets.erase t })
    else pure (.ok (), s)

/-- Adds a listener behind those that are there. -/
def listen (s : Session) (l : Listener) : Except SessionError Unit × Session :=
  match s.installed with
  | none => (.error .disposed, s)
  | some _ => (.ok (), { s with listeners := s.listeners ++ [l] })

/-- Whether an adaptor has a setup program beside that of the primary one. -/
def isExtra : Option Adaptor → m Bool
  | none => pure false
  | some a => env.ask a .setupIsExtra

def extraOf (a : Option Adaptor) : m (Option SetupProgram) := do
  match a with
  | none => pure none
  | some a => if ← env.ask a .setupIsExtra then env.ask a .setupProgram else pure none

def insteadOf (a : Option Adaptor) : m (Option SetupProgram) := do
  match a with
  | none => pure none
  | some a => if ← env.ask a .setupIsExtra then pure none else env.ask a .setupProgram

/-- The program that sets up keyboards: that of the secondary adaptor unless it is an extra. -/
def setupProgram (s : Session) : m (Except SessionError (Option SetupProgram)) :=
  match s.installed with
  | none => pure (.error .disposed)
  | some i => do
    match ← insteadOf env i.secondary with
    | some p => pure (.ok (some p))
    | none => .ok <$> env.ask i.primary .setupProgram

/-- The setup program that the secondary adaptor has besides. -/
def extraSetupProgram (s : Session) : m (Except SessionError (Option SetupProgram)) :=
  match s.installed with
  | none => pure (.error .disposed)
  | some i => .ok <$> extraOf env i.secondary

def hasExtraSetupProgram (s : Session) : m (Except SessionError Bool) :=
  match s.installed with
  | none => pure (.error .disposed)
  | some i => .ok <$> isExtra env i.secondary

end Keyboards.Session
