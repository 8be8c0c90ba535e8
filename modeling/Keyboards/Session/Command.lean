import Keyboards.Session.Activation
import Keyboards.Session.Services
import Keyboards.Session.Installation

/-! Everything that can be asked of a session, as data, and runs of it. -/

namespace Keyboards

inductive Command where
  | resolve (id : String)
  | lookup (layout locale : String)
  | chosenFor (ws : WritingSystem)
  | ofLanguage (language : Language)
  | describe (layout locale : String)
  | defaultKeyboard
  | activeKeyboard
  | defaultFor (ws : WritingSystem)
  | allKeyboards
  | availableKeyboards
  | legacyFor (ws : WritingSystem)
  | size
  | adaptorNames
  | settings
  | isDisposed
  | activate (k : Keyboard)
  | activateId (id : String)
  | activateKey (layout locale : String)
  | activateLanguage (language : Language)
  | activateDefault
  | activateDescribed (layout locale : String)
  | activateFor (ws : WritingSystem)
  | deactivate
  | setup
  | register (target : FocusTarget) (handler : Option Handler)
  | unregister (target : FocusTarget)
  | listen (listener : Listener)
  | isRegistered (target : FocusTarget)
  | handlerOf (target : FocusTarget)
  | targetCount
  | replaceAdaptors (offered : List Adaptor)
  | refresh
  | shutDown

inductive Reply where
  | failed (error : SessionError)
  | done
  | flag (value : Bool)
  | number (value : Nat)
  | names (values : List String)
  | settings (value : SessionSettings)
  | keyboard (k : Keyboard)
  | perhaps (k : Option Keyboard)
  | keyboards (ks : List Keyboard)
  | handler (h : Option Handler)
  | activation (a : Activation)
  /-- An activation, or why there was none, and the writing system as it is afterwards. -/
  | activationFor (a : Except SessionError Activation) (ws : WritingSystem)
  | setup (main extra : Option SetupProgram) (hasExtra : Bool)

/-- The reply that carries a result. -/
def Reply.of {α : Type} (f : α → Reply) : Except SessionError α → Reply
  | .ok a => f a
  | .error e => .failed e

namespace Session

variable {m : Type → Type} [Monad m] (env : Environment m)

/-- All three facts about setup programs. -/
def setupFacts (s : Session) : m Reply := do
  match ← s.setupProgram env, ← s.extraSetupProgram env, ← s.hasExtraSetupProgram env with
  | .ok main, .ok extra, .ok hasExtra => pure (.setup main extra hasExtra)
  | .error e, _, _ => pure (.failed e)
  | _, .error e, _ => pure (.failed e)
  | _, _, .error e => pure (.failed e)

/-- Carries a command out. -/
def perform (s : Session) : Command → m (Reply × Session)
  | .resolve id => pure (.of .keyboard (s.resolve id), s)
  | .lookup layout locale => pure (.of .keyboard (s.lookup layout locale), s)
  | .chosenFor ws => pure (.of .keyboard (s.chosenFor ws), s)
  | .ofLanguage language => pure (.of .keyboard (s.ofLanguage language), s)
  | .describe layout locale => do pure (.of .keyboard (← s.describe env layout locale), s)
  | .defaultKeyboard => do pure (.of .keyboard (← s.defaultKeyboard env), s)
  | .activeKeyboard => do
    let (r, s) ← s.activeKeyboard env
    pure (.of .keyboard r, s)
  | .defaultFor ws => do pure (.of .keyboard (← s.defaultFor env ws), s)
  | .allKeyboards => pure (.of .keyboards s.allKeyboards, s)
  | .availableKeyboards => pure (.of .keyboards s.availableKeyboards, s)
  | .legacyFor ws => pure (.of .perhaps (s.legacyFor ws), s)
  | .size => pure (.of .number (s.catalog.map (·.size)), s)
  | .adaptorNames => pure (.of .names s.adaptorNames, s)
  | .settings => pure (.settings s.settings, s)
  | .isDisposed => pure (.flag s.isDisposed, s)
  | .activate k => do
    let (r, s) ← s.activate env k
    pure (.of .activation r, s)
  | .activateId id => do
    let (r, s) ← s.activateId env id
    pure (.of .activation r, s)
  | .activateKey layout locale => do
    let (r, s) ← s.activateKey env layout locale
    pure (.of .activation r, s)
  | .activateLanguage language => do
    let (r, s) ← s.activateLanguage env language
    pure (.of .activation r, s)
  | .activateDefault => do
    let (r, s) ← s.activateDefault env
    pure (.of .activation r, s)
  | .activateDescribed layout locale => do
    let (r, s) ← s.activateDescribed env layout locale
    pure (.of .activation r, s)
  | .activateFor ws => do
    let ((r, ws), s) ← s.activateFor env ws
    pure (.activationFor r ws, s)
  | .deactivate => do
    let (r, s) ← s.deactivate env
    pure (.of (fun _ => .done) r, s)
  | .setup => do pure (← s.setupFacts env, s)
  | .register t h => do
    let (r, s) ← s.register env t h
    pure (.of (fun _ => .done) r, s)
  | .unregister t => do
    let (r, s) ← s.unregister env t
    pure (.of (fun _ => .done) r, s)
  | .listen l =>
    let (r, s) := s.listen l
    pure (.of (fun _ => .done) r, s)
  | .isRegistered t => pure (.of .flag (s.isRegistered t), s)
  | .handlerOf t => pure (.of .handler (s.handlerOf t), s)
  | .targetCount => pure (.of .number s.targetCount, s)
  | .replaceAdaptors offered => do
    let (r, s) ← s.replaceAdaptors env offered
    pure (.of (fun _ => .done) r, s)
  | .refresh => do
    let (r, s) ← s.refresh env
    pure (.of (fun _ => .done) r, s)
  | .shutDown => do pure (.done, ← s.shutDown env)

/-- Carries commands out in order. -/
def run (s : Session) : List Command → m (List Reply × Session)
  | [] => pure ([], s)
  | c :: rest => do
    let (r, s) ← s.perform env c
    let (rs, s) ← s.run rest
    pure (r :: rs, s)

end Session

end Keyboards
