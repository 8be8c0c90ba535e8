import Keyboards.Session.Basic

/-! Putting keyboards into use. -/

namespace Keyboards.Session

variable {m : Type → Type} [Monad m] (env : Environment m)

/-- Tells the user of a problem unless an earlier one had the same identifier. -/
def warnOnce (s : Session) (id message : String) : m Session := do
  if !s.settings.notifyUnresolved || s.warned.contains id then pure s
  else do
    env.report (.problem message)
    pure { s with warned := s.warned ++ [id] }

/-- Asks the primary adaptor for the system default, in the form that the catalog has of it. -/
def defaultOf (i : Installed) : m Keyboard := do
  match ← env.ask i.primary .defaultKeyboard with
  | some k => pure ((i.catalog.get? k.layout k.locale).getD k)
  | none => pure .zero

/-- The system default keyboard, or zero. -/
def defaultKeyboard (s : Session) : m (Except SessionError Keyboard) :=
  match s.installed with
  | none => pure (.error .disposed)
  | some i => .ok <$> defaultOf env i

/-- The keyboard with a key, or one that the primary adaptor describes and that is not on offer. -/
def describe (s : Session) (layout locale : String) : m (Except SessionError Keyboard) :=
  match s.installed with
  | none => pure (.error .disposed)
  | some i =>
    match i.catalog.get? layout locale with
    | some k => pure (.ok k)
    | none => .ok <$> env.ask i.primary (.describe layout locale)

/-- The keyboard for a writing system that has none: what its old fields name, or the default. -/
def defaultFor (s : Session) (ws : WritingSystem) : m (Except SessionError Keyboard) :=
  match s.legacyFor ws with
  | .error e => pure (.error e)
  | .ok (some k) => pure (.ok k)
  | .ok none => s.defaultKeyboard env

/-- The keyboard in use. As long as none is known the host may be asked for its own. -/
def activeKeyboard (s : Session) : m (Except SessionError Keyboard × Session) := do
  match s.installed with
  | none => pure (.error .disposed, s)
  | some i =>
    if i.active.isZero && s.settings.queryHostActive then do
      let found := (← env.ask i.primary .activeKeyboard).bind fun p => i.catalog.get? p.1 p.2
      match found with
      | some k => pure (.ok k, { s with installed := some { i with active := k } })
      | none => pure (.ok i.active, s)
    else pure (.ok i.active, s)

/-- The catalog's own entry for a keyboard, if it is available, with the category it belongs to. -/
def usable? (i : Installed) (k : Keyboard) : Option (Keyboard × Category) :=
  ((i.catalog.get? k.layout k.locale).filter (·.available)).bind fun r =>
    r.category.map fun c => (r, c)

/-- The adaptor to leave when a category takes over from the keyboard in use. -/
def leaving? (i : Installed) (c : Category) : Option Adaptor :=
  if i.active.isZero || i.active.category = some c then none
  else i.active.category.bind i.serving

/-- Has the adaptor of a category activate an entry of the catalog, after the adaptor of another
category was told to let go. There is no answer if by then no adaptor serves the category. -/
def handOver (i : Installed) (c : Category) (r : Keyboard) :
    m (Option (Except AdaptorError Unit)) := do
  (leaving? i c).forM fun b => env.ask b (.deactivate i.active)
  match i.serving c with
  | none => pure none
  | some a => some <$> env.ask a (.activate r)

/-- Activates a keyboard through the adaptor of its category. That there is one is known before
another adaptor lets go. A failure brings the keyboard in use back and is reported once. -/
def activate (s : Session) (k : Keyboard) : m (Except SessionError Activation × Session) := do
  match s.installed with
  | none => pure (.error .disposed, s)
  | some i =>
    if k.isZero then pure (.ok .noKeyboard, s)
    else
      match usable? i k with
      | none => do
        let s ← s.warnOnce env k.legacyId
          ("The keyboard '" ++ k.name ++ "' is not installed on this computer.")
        pure (.ok .failed, s)
      | some (r, category) =>
        if (i.serving category).isNone then do
          let s ← s.warnOnce env k.legacyId
            ("No keyboard system is available to activate '" ++ r.name ++ "'.")
          pure (.ok .failed, s)
        else
          match ← handOver env i category r with
          | none => pure (.ok .failed, s)
          | some (.ok ()) =>
            pure (.ok .activated, { s with installed := some { i with active := r } })
          | some (.error e) => do
            (leaving? i category).forM fun b => discard (env.ask b (.activate i.active))
            let s ← s.warnOnce env k.legacyId
              ("The keyboard '" ++ r.name ++ "' could not be activated: " ++ e.message)
            pure (.ok .failed, s)

/-- Activates the keyboard that a lookup found. -/
def activateFound (s : Session) (found : Except SessionError Keyboard) :
    m (Except SessionError Activation × Session) :=
  match found with
  | .error e => pure (.error e, s)
  | .ok k => s.activate env k

/-- Activates what an identifier names. One that names nothing is reported once. -/
def activateId (s : Session) (id : String) : m (Except SessionError Activation × Session) := do
  match s.resolve id with
  | .error e => pure (.error e, s)
  | .ok k =>
    if k.isZero then do
      let s ← s.warnOnce env id
        ("Could not find a keyboard ime that had a keyboard named '" ++ id ++ "'")
      pure (.ok .noKeyboard, s)
    else s.activate env k

def activateKey (s : Session) (layout locale : String) :
    m (Except SessionError Activation × Session) :=
  s.activateFound env (s.lookup layout locale)

def activateLanguage (s : Session) (language : Language) :
    m (Except SessionError Activation × Session) :=
  s.activateFound env (s.ofLanguage language)

def activateDefault (s : Session) : m (Except SessionError Activation × Session) := do
  s.activateFound env (← s.defaultKeyboard env)

/-- Activates what `describe` gives for a key. -/
def activateDescribed (s : Session) (layout locale : String) :
    m (Except SessionError Activation × Session) := do
  s.activateFound env (← s.describe env layout locale)

/-- A writing system without a keyboard takes the one that its old fields name. -/
def adopt (s : Session) (ws : WritingSystem) : Except SessionError WritingSystem :=
  match s.chosenFor ws with
  | .error e => .error e
  | .ok k =>
    if k.isZero then
      (s.legacyFor ws).map fun
        | some found => { ws with keyboard := some found }
        | none => ws
    else .ok ws

/-- Activates the keyboard of a writing system and gives the writing system with it. -/
def activateFor (s : Session) (ws : WritingSystem) :
    m ((Except SessionError Activation × WritingSystem) × Session) := do
  match s.adopt ws with
  | .error e => pure ((.error e, ws), s)
  | .ok ws => do
    let (result, s) ← s.activate env ws.chosen
    pure ((result, ws), s)

/-- Returns the subsystem of the keyboard in use to its neutral state. -/
def deactivate (s : Session) : m (Except SessionError Unit × Session) := do
  match s.installed with
  | none => pure (.error .disposed, s)
  | some i => do
    if !i.active.isZero then
      (i.active.category.bind i.serving).forM fun a => env.ask a (.deactivate i.active)
    pure (.ok (), { s with installed := some { i with active := .zero } })

end Keyboards.Session
