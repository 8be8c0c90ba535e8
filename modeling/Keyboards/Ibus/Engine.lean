import Keyboards.Host.Error
import Keyboards.Text.Basic

/-! Input-method engines, their locales, and the listing that names them by language. -/

namespace Keyboards.Ibus

/-- Three-letter language codes, as engines for system layouts have them, by two-letter ones. -/
def languageCodes : List (String × String) :=
  [("eng", "en"), ("ger", "de"), ("deu", "de"), ("fra", "fr"), ("fre", "fr"), ("spa", "es"),
   ("por", "pt"), ("ita", "it"), ("rus", "ru"), ("ukr", "uk"), ("pol", "pl"), ("cze", "cs"),
   ("ces", "cs"), ("dut", "nl"), ("nld", "nl"), ("swe", "sv"), ("nor", "nb"), ("dan", "da"),
   ("fin", "fi"), ("gre", "el"), ("ell", "el"), ("tur", "tr"), ("ara", "ar"), ("heb", "he"),
   ("per", "fa"), ("fas", "fa"), ("hin", "hi"), ("tha", "th"), ("vie", "vi"), ("jpn", "ja"),
   ("kor", "ko"), ("chi", "zh"), ("zho", "zh")]

/-- Engines whose names carry no language. -/
def engineLocales : List (String × String) :=
  [("pinyin", "zh-CN"), ("libpinyin", "zh-CN"), ("intpinyin", "zh-CN"), ("rime", "zh-CN"),
   ("chewing", "zh-TW"), ("libzhuyin", "zh-TW"), ("bopomofo", "zh-TW"), ("anthy", "ja"),
   ("kkc", "ja"), ("mozc-jp", "ja"), ("hangul", "ko"), ("Unikey", "vi"), ("Bamboo", "vi")]

/-- Two or three lower-case ASCII letters. -/
def isLanguageCode (s : String) : Bool :=
  let cs := s.toList
  2 ≤ cs.length && cs.length ≤ 3 && cs.all fun c => 'a' ≤ c && c ≤ 'z'

/-- The two-letter code for the first of the languages in a list such as `eng,ger`. -/
def shortCode (languages : String) : String :=
  let language := String.ofList (languages.toList.takeWhile (· ≠ ','))
  (languageCodes.lookup language).getD language

/-- The locale of an engine, or nothing where its name does not tell. An engine for a system
layout names its language fourth; other names of several fields have a language code second. -/
def localeOf (name : String) : String :=
  let known := (engineLocales.lookup name).getD ""
  match Text.split ':' name with
  | "xkb" :: _ :: _ :: languages :: _ => shortCode languages
  | _ :: language :: _ => if isLanguageCode language then language else known
  | _ => known

structure Engine where
  name : String
  description : String
  /-- The language that the engine is listed under. -/
  language : String
deriving DecidableEq, Repr

namespace Engine

/-- Whether the engine stands for a system layout. -/
def isXkb (e : Engine) : Bool := "xkb:".toList.isPrefixOf e.name.toList

def locale (e : Engine) : String := localeOf e.name

/-- The language on a line `language: NAME`. -/
def header? (line : List Char) : Option (List Char) :=
  let label := "language:".toList
  if label.isPrefixOf line then Text.behindBlanks? 0 (line.drop label.length) else none

/-- Name and description on a line `  NAME - DESCRIPTION`. -/
def item? (line : List Char) : Option (List Char × List Char) :=
  let indented := line.dropWhile Text.isBlank
  let name := indented.takeWhile (!Text.isBlank ·)
  let gap := indented.dropWhile (!Text.isBlank ·)
  if indented.length = line.length || name.isEmpty then none
  else match gap.dropWhile Text.isBlank with
    | '-' :: rest => (Text.behindBlanks? 1 rest).map fun d => (name, d)
    | _ => none

/-- The engines on lines that follow a header for `language`. -/
def listFrom (language : Option (List Char)) :
    List (List Char) → Except AdaptorError (List Engine)
  | [] => .ok []
  | line :: rest =>
    match header? line with
    | some next => listFrom (some next) rest
    | none =>
      match item? line, language with
      | none, _ => listFrom language rest
      | some _, none =>
        .error (.unexpectedOutput ("engine listed before any language header: " ++
          String.ofList (Text.trimChars line)))
      | some (name, d), some l =>
        (listFrom language rest).map fun es =>
          ⟨String.ofList name, String.ofList d, String.ofList l⟩ :: es

/-- Reads a listing, in its order. Every engine has to follow a language header. -/
def readList (output : String) : Except AdaptorError (List Engine) :=
  listFrom none (Text.lines output.toList)

end Engine

end Keyboards.Ibus
