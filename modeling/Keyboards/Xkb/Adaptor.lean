import Keyboards.Adaptor
import Keyboards.Settings
import Keyboards.Xkb.Rules

/-! The primary adaptor: the layouts and variants of the rules list as keyboards. -/

namespace Keyboards.Xkb

/-- What a host with system layouts does when asked. -/
structure Host (m : Type → Type) where
  isPresent : m Bool
  /-- The content of the rules list. -/
  rules : m (Except AdaptorError String)
  /-- A report of the layouts in use. -/
  query : m (Except AdaptorError String)
  setLayout : (code : String) → (variant : Option String) → m (Except AdaptorError Unit)

/-- Layouts are named after countries; these are the locales they are normally used for. -/
def layoutLocales : List (String × String) :=
  [("us", "en-US"), ("gb", "en-GB"), ("au", "en-AU"), ("ca", "fr-CA"), ("ie", "en-IE"),
   ("in", "hi-IN"), ("za", "en-ZA"), ("de", "de-DE"), ("at", "de-AT"), ("ch", "de-CH"),
   ("fr", "fr-FR"), ("be", "fr-BE"), ("es", "es-ES"), ("latam", "es-MX"), ("pt", "pt-PT"),
   ("br", "pt-BR"), ("it", "it-IT"), ("nl", "nl-NL"), ("se", "sv-SE"), ("no", "nb-NO"),
   ("dk", "da-DK"), ("fi", "fi-FI"), ("is", "is-IS"), ("ee", "et-EE"), ("lv", "lv-LV"),
   ("lt", "lt-LT"), ("pl", "pl-PL"), ("cz", "cs-CZ"), ("sk", "sk-SK"), ("hu", "hu-HU"),
   ("ro", "ro-RO"), ("bg", "bg-BG"), ("rs", "sr-RS"), ("hr", "hr-HR"), ("si", "sl-SI"),
   ("gr", "el-GR"), ("tr", "tr-TR"), ("ru", "ru-RU"), ("ua", "uk-UA"), ("by", "be-BY"),
   ("il", "he-IL"), ("ara", "ar-SA"), ("ir", "fa-IR"), ("th", "th-TH"), ("vn", "vi-VN"),
   ("cn", "zh-CN"), ("tw", "zh-TW"), ("jp", "ja-JP"), ("kr", "ko-KR"), ("et", "am-ET"),
   ("ke", "sw-KE"), ("ng", "en-NG"), ("np", "ne-NP"), ("lk", "si-LK"), ("mn", "mn-MN"),
   ("ge", "ka-GE"), ("am", "hy-AM"), ("kz", "kk-KZ")]

/-- The locale of a layout: an override of its full name, else of its code, else the usual one. -/
def localeOf? (overrides : NameMap) (name : String) : Option String :=
  let code := (splitName name).1
  overrides.get? name <|> overrides.get? code <|> layoutLocales.lookup code

def adaptorName : String := "xkb"

/-- What the adaptor keeps between requests. -/
structure State where
  settings : XkbSettings := {}
  /-- The layouts of the rules list, while the adaptor is started. -/
  layouts : List Layout := []
  /-- The layout that was in effect at the start: the system default and the neutral state. -/
  initial : Option String := none
deriving DecidableEq, Repr

namespace State

/-- The keyboard for a layout name under a description. -/
def keyboardNamed (s : State) (name description : String) : Keyboard :=
  let locale := (localeOf? s.settings.localeOverrides name).getD ""
  { Keyboard.make name locale .primary adaptorName with
    name := description
    language := if locale = "" then none else some (.ofLocale locale description) }

def keyboardOf (s : State) (l : Layout) : Keyboard := s.keyboardNamed l.name l.description

/-- The keyboard for a layout name that the host reports, whether or not the rules list it. -/
def keyboardFor (s : State) (name : String) : Keyboard :=
  match s.layouts.find? (·.name = name) with
  | some l => s.keyboardOf l
  | none => s.keyboardNamed name name

def setupProgram (s : State) : Option SetupProgram :=
  s.settings.setupProgram.map fun p => ⟨p, s.settings.setupArguments⟩

end State

variable {m : Type → Type} [Monad m] (host : Host m)

/-- The layout in effect, if the host tells. -/
def current : m (Option String) := do
  match ← host.query with
  | .error _ => pure none
  | .ok output =>
    match Query.read output with
    | .ok q => pure q.current?
    | .error _ => pure none

/-- Switches the host to a layout unless it is in effect already. -/
def switchTo (name : String) : m (Except AdaptorError Unit) := do
  if (← current host) = some name then pure (.ok ())
  else
    let (code, variant) := splitName name
    host.setLayout code variant

/-- Reads the rules list and remembers the layout in effect. -/
def begin (s : State) : m (Except AdaptorError Unit × State) := do
  match ← host.rules with
  | .error e => pure (.error e, s)
  | .ok content =>
    match Rules.read content with
    | .error e => pure (.error e, s)
    | .ok layouts => do
      let initial ← current host
      pure (.ok (), { s with layouts, initial })

/-- Switches the host to the layout of a keyboard that the rules list. -/
def activate (s : State) (k : Keyboard) : m (Except AdaptorError Unit) :=
  if s.layouts.any (·.name = k.layout) then switchTo host k.layout
  else pure (.error (.unknownKeyboard k.layout))

/-- Puts the layout that was in effect at the start back, as far as the host permits. -/
def restore (s : State) : m Unit :=
  match s.initial with
  | some name => discard (switchTo host name)
  | none => pure ()

/-- How the adaptor answers, and what it keeps afterwards. -/
def answer (s : State) : (r : Request) → m (r.Answer × State)
  | .isApplicable => do pure (← host.isPresent, s)
  | .start => begin host s
  | .close => pure ((), { s with layouts := [] })
  | .enumerate => pure (.ok (s.layouts.map s.keyboardOf), s)
  | .activate k => do pure (← activate host s k, s)
  | .deactivate _ => do pure (← restore host s, s)
  | .describe layout locale =>
    pure ({ Keyboard.make layout locale .primary adaptorName with available := false }, s)
  | .defaultKeyboard => pure (s.initial.map s.keyboardFor, s)
  | .activeKeyboard => do pure ((← current host).map fun name => (s.keyboardFor name).key, s)
  | .setupProgram => pure (s.setupProgram, s)
  | .setupIsExtra => pure (false, s)
  | .focus _ => pure ((), s)

end Keyboards.Xkb
