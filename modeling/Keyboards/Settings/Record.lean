import Keyboards.Host.Error
import Keyboards.Settings
import Keyboards.Text.Utf8
import Keyboards.Toml.Document
import Keyboards.Toml.Writer

/-! Settings as data and as TOML text. Missing fields have their usual values and unknown ones do
not count. -/

namespace Keyboards

section

open Data

def SessionSettings.fieldNames : List String :=
  ["notify_unresolved", "query_host_active", "legacy_lookup"]

def SessionSettings.ofData? (surplus : Bool) (d : Data) : Option SessionSettings := do
  match ← d.fields? surplus fieldNames with
  | [notify, query, legacy] =>
    let usual : SessionSettings := {}
    some {
      notifyUnresolved := ← orDefault bool? usual.notifyUnresolved notify
      queryHostActive := ← orDefault bool? usual.queryHostActive query
      legacyLookup := ← orDefault bool? usual.legacyLookup legacy }
  | _ => none

def SessionSettings.toData (s : SessionSettings) : Data :=
  .table [("notify_unresolved", .bool s.notifyUnresolved),
    ("query_host_active", .bool s.queryHostActive), ("legacy_lookup", .bool s.legacyLookup)]

def XkbSettings.fieldNames : List String :=
  ["program", "rules_path", "locale_overrides", "setup_program", "setup_arguments"]

def XkbSettings.ofData? (surplus : Bool) (d : Data) : Option XkbSettings := do
  match ← d.fields? surplus fieldNames with
  | [program, rules, overrides, setup, arguments] =>
    let usual : XkbSettings := {}
    some {
      program := ← orDefault text? usual.program program
      rulesPath := ← orDefault text? usual.rulesPath rules
      localeOverrides := .ofList (← orDefault textEntries? [] overrides)
      setupProgram := ← orDefault optionalText? usual.setupProgram setup
      setupArguments := ← orDefault texts? usual.setupArguments arguments }
  | _ => none

def XkbSettings.toData (s : XkbSettings) : Data :=
  .table [("program", .text s.program), ("rules_path", .text s.rulesPath),
    ("locale_overrides", .table (s.localeOverrides.entries.map fun e => (e.1, .text e.2))),
    ("setup_program", ofOption .text s.setupProgram),
    ("setup_arguments", texts s.setupArguments)]

def IbusSettings.fieldNames : List String :=
  ["program", "neutral_engine", "include_xkb_engines", "setup_program"]

def IbusSettings.ofData? (surplus : Bool) (d : Data) : Option IbusSettings := do
  match ← d.fields? surplus fieldNames with
  | [program, neutral, xkb, setup] =>
    let usual : IbusSettings := {}
    some {
      program := ← orDefault text? usual.program program
      neutralEngine := ← orDefault text? usual.neutralEngine neutral
      includeXkbEngines := ← orDefault bool? usual.includeXkbEngines xkb
      setupProgram := ← orDefault optionalText? usual.setupProgram setup }
  | _ => none

def IbusSettings.toData (s : IbusSettings) : Data :=
  .table [("program", .text s.program), ("neutral_engine", .text s.neutralEngine),
    ("include_xkb_engines", .bool s.includeXkbEngines),
    ("setup_program", ofOption .text s.setupProgram)]

def Settings.fieldNames : List String := ["controller", "xkb", "ibus"]

def Settings.ofData? (surplus : Bool) (d : Data) : Option Settings := do
  match ← d.fields? surplus fieldNames with
  | [session, xkb, ibus] =>
    some {
      session := ← orDefault (SessionSettings.ofData? surplus) {} session
      xkb := ← orDefault (XkbSettings.ofData? surplus) {} xkb
      ibus := ← orDefault (IbusSettings.ofData? surplus) {} ibus }
  | _ => none

def Settings.toData (s : Settings) : Data :=
  .table [("controller", s.session.toData), ("xkb", s.xkb.toData), ("ibus", s.ibus.toData)]

end

/-- Why settings could not be had from a file. -/
inductive SettingsError where
  /-- The text is no TOML, or no settings. -/
  | malformed
  | io (error : IoError)
deriving DecidableEq, Repr

def writeSettings : Data → String
  | .table entries => Toml.write entries
  | _ => ""

def SessionSettings.read? (text : String) : Option SessionSettings :=
  (Toml.read? text).bind (ofData? true)

def SessionSettings.write (s : SessionSettings) : String := writeSettings s.toData

def XkbSettings.read? (text : String) : Option XkbSettings := (Toml.read? text).bind (ofData? true)

def XkbSettings.write (s : XkbSettings) : String := writeSettings s.toData

def IbusSettings.read? (text : String) : Option IbusSettings :=
  (Toml.read? text).bind (ofData? true)

def IbusSettings.write (s : IbusSettings) : String := writeSettings s.toData

def Settings.read? (text : String) : Option Settings := (Toml.read? text).bind (ofData? true)

/-- Settings from the content of a file. -/
def loadSettings {α : Type} (read? : String → Option α) (content : Except IoError (List UInt8)) :
    Except SettingsError α :=
  match content with
  | .error e => .error (.io e)
  | .ok bytes =>
    match Text.Utf8.decode? bytes with
    | none => .error (.io .invalidText)
    | some text =>
      match read? text with
      | some s => .ok s
      | none => .error .malformed

end Keyboards
