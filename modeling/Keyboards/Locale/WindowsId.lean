import Keyboards.Text.Basic

/-! Numeric locale identifiers (LCIDs), by which old records name a locale. -/

namespace Keyboards.Locale

/-- The locales that keyboards are commonly installed for, in increasing order of identifier. -/
def windowsIds : List (Nat × String) :=
  [(1025, "ar-SA"), (1026, "bg-BG"), (1027, "ca-ES"), (1028, "zh-TW"), (1029, "cs-CZ"),
   (1030, "da-DK"), (1031, "de-DE"), (1032, "el-GR"), (1033, "en-US"), (1034, "es-ES"),
   (1035, "fi-FI"), (1036, "fr-FR"), (1037, "he-IL"), (1038, "hu-HU"), (1039, "is-IS"),
   (1040, "it-IT"), (1041, "ja-JP"), (1042, "ko-KR"), (1043, "nl-NL"), (1044, "nb-NO"),
   (1045, "pl-PL"), (1046, "pt-BR"), (1048, "ro-RO"), (1049, "ru-RU"), (1050, "hr-HR"),
   (1051, "sk-SK"), (1053, "sv-SE"), (1054, "th-TH"), (1055, "tr-TR"), (1057, "id-ID"),
   (1058, "uk-UA"), (1061, "et-EE"), (1062, "lv-LV"), (1063, "lt-LT"), (1065, "fa-IR"),
   (1066, "vi-VN"), (1081, "hi-IN"), (1086, "ms-MY"), (1089, "sw-KE"), (1106, "cy-GB"),
   (2052, "zh-CN"), (2055, "de-CH"), (2057, "en-GB"), (2058, "es-MX"), (2060, "fr-BE"),
   (2064, "it-CH"), (2067, "nl-BE"), (2070, "pt-PT"), (3076, "zh-HK"), (3079, "de-AT"),
   (3081, "en-AU"), (3084, "fr-CA"), (4105, "en-CA"), (4108, "fr-CH"), (5129, "en-NZ"),
   (6153, "en-IE"), (7177, "en-ZA"), (16393, "en-IN")]

/-- The locale of an identifier. -/
def ofWindowsId? (id : Nat) : Option String := windowsIds.lookup id

/-- ASCII letters compare without case, all else exactly. -/
def sameName (a b : String) : Bool := a.toList.map Char.toLower == b.toList.map Char.toLower

/-- The identifier of a locale. -/
def windowsId? (locale : String) : Option Nat :=
  (windowsIds.find? fun e => sameName e.2 locale).map (·.1)

/-- The number that decimal digits denote. -/
def digitsValue (ds : List Char) : Nat := ds.foldl (fun n d => n * 10 + (d.toNat - '0'.toNat)) 0

/-- Reads at least one ASCII digit and nothing else. -/
def digits? (ds : List Char) : Option Nat :=
  if ds.isEmpty || !ds.all Char.isDigit then none else some (digitsValue ds)

/-- The largest number that a stored identifier can be. -/
def maxStored : Nat := 2147483647

/-- Reads a stored identifier: an optional sign and a number that is neither negative nor too
large. -/
def readWindowsId? (stored : String) : Option Nat :=
  match Text.trimChars stored.toList with
  | '-' :: ds => (digits? ds).filter (· == 0)
  | '+' :: ds => (digits? ds).filter (· ≤ maxStored)
  | ds => (digits? ds).filter (· ≤ maxStored)

end Keyboards.Locale
