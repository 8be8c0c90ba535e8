import Keyboards.CommandLine.Arguments
import Keyboards.CommandLine.Subsystems
import Keyboards.Json.Printer
import Keyboards.Keyboard
import Keyboards.Session.Command
import Keyboards.Settings.Record

/-! The command line program, on any machine. -/

namespace Keyboards.CommandLine

/-- What a run of the program leaves behind. -/
structure Outcome where
  code : Nat := 0
  output : String := ""
  errors : String := ""
deriving DecidableEq, Repr

/-- A run that fails with a message. -/
def Outcome.failure (message : String) : Outcome :=
  { code := 1, errors := "Error: " ++ message ++ "\n" }

/-- A run that fails with a message and its cause. -/
def Outcome.failureBy (message cause : String) : Outcome :=
  .failure (message ++ "\n\nCaused by:\n    " ++ cause)

def Outcome.lines (ls : List String) : Outcome := { output := String.join (ls.map (· ++ "\n")) }

/-- Fills a text up with spaces on its right. -/
def pad (width : Nat) (s : String) : String :=
  s ++ String.ofList (List.replicate (width - s.length) ' ')

/-- A keyboard on one line. -/
def keyboardLine (k : Keyboard) : String :=
  pad 32 k.legacyId ++ " " ++ pad 10 (k.category.elim "unknown" (·.name)) ++ " " ++ k.name ++
    (if k.available then "" else " (not installed)")

def listing (json : Bool) (ks : List Keyboard) : Outcome :=
  if json then .lines [Json.pretty 0 (.list (ks.map (·.toData)))]
  else .lines (ks.map keyboardLine)

def setupLine (label : String) : Option SetupProgram → String
  | some p => pad 10 label ++ " " ++ p.program ++ " " ++ " ".intercalate p.arguments
  | none => pad 10 label ++ " -"

def noMatch (id : String) : Outcome := .failure ("no keyboard matches '" ++ id ++ "'")

variable {m : Type → Type} [Monad m]

/-- The outcome of a part of a session that may find it shut down. -/
def orDisposed {α : Type} (f : α → Outcome) : Except SessionError α → Outcome
  | .ok a => f a
  | .error e => .failure e.message

/-- Carries an action out in a session. -/
def perform (env : Environment m) (s : Session) : Action → m (Outcome × Session)
  | .list all json =>
    pure (orDisposed (listing json) (if all then s.allKeyboards else s.availableKeyboards), s)
  | .resolve id =>
    pure (orDisposed (fun k => if k.isZero then noMatch id else .lines [keyboardLine k])
      (s.resolve id), s)
  | .legacy windowsId keyboardName languageTag =>
    match s.legacyFor { languageTag, windowsId, keyboardName } with
    | .error e => pure (.failure e.message, s)
    | .ok (some k) => pure (.lines [keyboardLine k], s)
    | .ok none => do
      let found ← s.defaultKeyboard env
      pure (orDisposed (fun k =>
        .lines ["no legacy match; the default keyboard would be used:", keyboardLine k]) found, s)
  | .activate id => do
    let (result, s) ← s.activateId env id
    match result with
    | .error e => pure (.failure e.message, s)
    | .ok .activated => do
      let (k, s) ← s.activeKeyboard env
      pure (orDisposed (fun k => .lines [keyboardLine k]) k, s)
    | .ok .noKeyboard => pure (noMatch id, s)
    | .ok .failed => pure (.failure ("keyboard '" ++ id ++ "' could not be activated"), s)
  | .active => do
    let (k, s) ← s.activeKeyboard env
    pure (orDisposed (fun k => .lines [if k.isZero then k.describe else keyboardLine k]) k, s)
  | .default => do
    let k ← s.defaultKeyboard env
    pure (orDisposed (fun k =>
      if k.isZero then .failure "the system default keyboard could not be determined"
      else .lines [keyboardLine k]) k, s)
  | .setup => do
    match ← s.setupFacts env with
    | .setup main extra hasExtra =>
      pure (.lines (setupLine "keyboards" main ::
        (if hasExtra then [setupLine "input" extra] else [])), s)
    | .failed e => pure (.failure e.message, s)
    | _ => pure ({}, s)

/-- Opens a session, carries an action out and shuts the session down. -/
def runSession (env : Environment m) (settings : SessionSettings) (action : Action) : m Outcome := do
  match ← Session.start env settings Subsystems.offered with
  | .error e =>
    pure (.failureBy "starting keyboard controller (is an X display available?)" e.message)
  | .ok s => do
    let (outcome, s) ← perform env s action
    let _ ← s.shutDown env
    pure outcome

/-- The settings from a file, or the usual ones where none is named. -/
def loadFrom (machine : Machine m) (path : Option String) : m (Except SettingsError Settings) := do
  match path with
  | none => pure (.ok {})
  | some path => do pure (loadSettings Settings.read? (← machine.readFile path))

/-- What to say of settings that could not be had. -/
def settingsFailure (path : String) : SettingsError → Outcome
  | .io e => .failureBy ("reading config " ++ path) e.message
  | .malformed => .failure ("parsing config " ++ path)

/-- Runs the program. -/
def run (machine : Machine m) (args : List String) : m Outcome := do
  match readArguments args with
  | .misused => pure { code := 2 }
  | .version => pure (.lines ["kbdctl 0.1.0"])
  | .run path action => do
    match ← loadFrom machine path with
    | .error e => pure (settingsFailure (path.getD "") e)
    | .ok settings => do
      let (outcome, _) ← (runSession (Subsystems.environment machine) settings.session action).run
        (.ofSettings settings)
      pure outcome

end Keyboards.CommandLine
