import Keyboards.Session.Basic

/-! Which of the adaptors on offer get installed, and the catalog they fill. -/

namespace Keyboards

/-- The adaptors chosen so far. `unused` holds those passed over, in the order they dropped out. -/
structure Selection where
  primary : Option Adaptor := none
  secondary : Option Adaptor := none
  unused : List Adaptor := []

/-- Gives an adaptor the place of its category; the one that had it drops out. -/
def Selection.choose (s : Selection) (a : Adaptor) : Selection :=
  match a.category with
  | .primary => { s with primary := some a, unused := s.unused ++ s.primary.toList }
  | .secondary => { s with secondary := some a, unused := s.unused ++ s.secondary.toList }

namespace Session

variable {m : Type → Type} [Monad m] (env : Environment m)

/-- Of each category the last applicable adaptor is chosen. -/
def select (offered : List Adaptor) : m Selection :=
  offered.foldlM (fun s a => do
    if ← env.ask a .isApplicable then pure (s.choose a)
    else pure { s with unused := s.unused ++ [a] }) {}

def closeAll (adaptors : List Adaptor) : m Unit :=
  adaptors.forM fun a => env.ask a .close

/-- Starts an adaptor; one that fails to start is closed. -/
def startAdaptor : Option Adaptor → m (Option Adaptor)
  | none => pure none
  | some a => do
    match ← env.ask a .start with
    | .ok () => pure (some a)
    | .error _ => do
      env.ask a .close
      pure none

/-- Fills a catalog from the adaptors in order. One that fails to enumerate adds nothing. -/
def enumerate (adaptors : List Adaptor) : m Catalog :=
  adaptors.foldlM (fun c a => do
    match ← env.ask a .enumerate with
    | .ok keyboards => pure (c.insertAll keyboards).2
    | .error _ => pure c) .empty

/-- Chooses, starts and enumerates adaptors. There has to be a primary one. -/
def install (offered : List Adaptor) : m (Except SessionError Installed) := do
  let chosen ← select env offered
  closeAll env chosen.unused
  let primary ← startAdaptor env chosen.primary
  let secondary ← startAdaptor env chosen.secondary
  match primary with
  | none => do
    closeAll env secondary.toList
    pure (.error .noPrimaryAdaptor)
  | some primary => do
    let catalog ← enumerate env (primary :: secondary.toList)
    pure (.ok { primary, secondary, catalog, active := .zero })

/-- Reports which adaptors are in use. -/
def reportAdaptors (i : Installed) : m Unit := do
  let names := ", ".intercalate i.names
  env.report (.property "KeyboardAdaptors" names)
  env.report (.event ("Keyboard adaptors in use: " ++ names))

/-- Opens a session on adaptors. -/
def start (settings : SessionSettings) (offered : List Adaptor) :
    m (Except SessionError Session) := do
  match ← install env offered with
  | .error e => do
    env.report (.event ("Keyboard controller failed to initialize: " ++ e.message))
    pure (.error e)
  | .ok i => do
    reportAdaptors env i
    pure (.ok { settings, installed := some i, warned := [], targets := [], listeners := [] })

/-- Tells adaptors of a target that is registered already. -/
def announce (adaptors : List Adaptor) (t : FocusTarget × Option Handler) : m Unit :=
  adaptors.forM fun a => env.ask a (.focus (.added t.1 t.2))

/-- Puts other adaptors in place of the installed ones, which are closed. The new ones hear of the
targets that are registered. Where no primary adaptor starts, all stays as it is. -/
def replaceAdaptors (s : Session) (offered : List Adaptor) :
    m (Except SessionError Unit × Session) := do
  match s.installed with
  | none => pure (.error .disposed, s)
  | some old => do
    match ← install env offered with
    | .error e => pure (.error e, s)
    | .ok i => do
      s.targets.forM (announce env i.adaptors)
      closeAll env old.adaptors
      reportAdaptors env i
      pure (.ok (), { s with installed := some i })

/-- Enumerates the adaptors anew. The keyboard in use stays so if it is still on offer. -/
def refresh (s : Session) : m (Except SessionError Unit × Session) := do
  match s.installed with
  | none => pure (.error .disposed, s)
  | some i => do
    let catalog ← enumerate env i.adaptors
    let active := (catalog.get? i.active.layout i.active.locale).getD .zero
    pure (.ok (), { s with installed := some { i with catalog, active } })

/-- Closes the adaptors for good. A second shutdown does nothing. -/
def shutDown (s : Session) : m Session := do
  match s.installed with
  | none => pure s
  | some i => do
    closeAll env i.adaptors
    pure { s with installed := none }

end Session

end Keyboards
