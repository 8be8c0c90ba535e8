import Keyboards.Data
import Keyboards.Locale.WindowsId
import Keyboards.Text.Canonical

/-! Keyboards: a layout paired with a locale, as an input subsystem offers it. -/

namespace Keyboards

/-- The part that an input subsystem plays on a host. -/
inductive Category where
  /-- The layouts of the system itself, one of which is its default. -/
  | primary
  /-- Input methods on top of them. -/
  | secondary
deriving DecidableEq, Repr

namespace Category

def name : Category → String
  | primary => "primary"
  | secondary => "secondary"

/-- The category as a record field. -/
def tag : Category → String
  | primary => "Primary"
  | secondary => "Secondary"

end Category

/-- The language that a host files a keyboard under. -/
structure Language where
  locale : String
  layoutName : String
  lcid : Option Nat
deriving DecidableEq, Repr

/-- A language whose numeric identifier is that of its locale. -/
def Language.ofLocale (locale layoutName : String) : Language :=
  ⟨locale, layoutName, Locale.windowsId? locale⟩

/-- One keyboard to choose. The pair of layout and locale identifies it; all else describes it. -/
structure Keyboard where
  layout : String
  locale : String
  name : String
  /-- `none` where no subsystem claims the keyboard. -/
  category : Option Category
  available : Bool
  /-- The name of the adaptor that offers it. -/
  adaptor : Option String
  language : Option Language
deriving DecidableEq, Repr

namespace Keyboard

/-- Stands for "no keyboard". -/
def zero : Keyboard := ⟨"", "", "", none, false, none, none⟩

instance : Inhabited Keyboard := ⟨zero⟩

/-- The one-string form of a key that old records hold. -/
def joinId (layout locale : String) : String :=
  if locale = "" then layout else layout ++ "-" ++ locale

/-- An available keyboard under canonically composed names; its own name is its old identifier. -/
def make (layout locale : String) (category : Category) (adaptor : String) : Keyboard :=
  let layout := Text.nfc layout
  let locale := Text.nfc locale
  ⟨layout, locale, joinId layout locale, some category, true, some adaptor, none⟩

variable (k : Keyboard)

def isZero : Bool := k.layout = "" && k.locale = ""

/-- What identifies the keyboard. -/
def key : String × String := (k.layout, k.locale)

/-- Two records of one keyboard. -/
def same (other : Keyboard) : Bool := k.key = other.key

/-- A hash that agrees for two records of one keyboard. -/
def keyHash : UInt64 := hash k.key

def legacyId : String := joinId k.layout k.locale

/-- The numeric identifier of the keyboard's language. -/
def lcid : Option Nat := k.language.bind (·.lcid)

/-- The keyboard in words. -/
def describe : String :=
  if k.isZero then "<no keyboard>"
  else k.name ++ " (" ++ k.layout ++ "|" ++ k.locale ++ ")"

end Keyboard

def Language.toData (l : Language) : Data :=
  .table [("locale", .text l.locale), ("layout_name", .text l.layoutName),
    ("lcid", .ofOption (fun n => .integer (Int.ofNat n)) l.lcid)]

/-- Adaptor and language are left out where there is none. -/
def Keyboard.toData (k : Keyboard) : Data :=
  .table ([("layout", .text k.layout), ("locale", .text k.locale), ("name", .text k.name),
    ("category", .ofOption (fun c => .text c.tag) k.category), ("available", .bool k.available)]
    ++ (k.adaptor.toList.map fun a => ("adaptor", .text a))
    ++ (k.language.toList.map fun l => ("input_language", l.toData)))

end Keyboards
