import Std.Data.HashMap
import Keyboards.Keyboard
import Keyboards.Text.Basic

/-! The keyboards on offer, in the order in which they were offered, and what a free-form identifier
means among them. -/

namespace Keyboards

/-- Keyboards with two indexes into them, by key and by old identifier. -/
structure Catalog where
  entries : Array Keyboard
  byKey : Std.HashMap (String × String) Nat
  byLegacyId : Std.HashMap String Nat

namespace Catalog

/-- A catalog without keyboards. -/
def empty : Catalog := ⟨#[], ∅, ∅⟩

instance : EmptyCollection Catalog := ⟨empty⟩

instance : Inhabited Catalog := ⟨empty⟩

/-- Keys are compared in canonical composition. -/
def keyOf (layout locale : String) : String × String := (Text.nfc layout, Text.nfc locale)

variable (c : Catalog)

def toList : List Keyboard := c.entries.toList

def size : Nat := c.entries.size

def isEmpty : Bool := c.entries.isEmpty

def contains (layout locale : String) : Bool := c.byKey.contains (keyOf layout locale)

/-- The keyboard with a key. -/
def get? (layout locale : String) : Option Keyboard :=
  (c.byKey[keyOf layout locale]?).bind fun i => c.entries[i]?

def containsId (id : String) : Bool := c.byLegacyId.contains (Text.nfc id)

/-- The keyboard that an old identifier names: verbatim, or as `layout|locale`. -/
def getId? (id : String) : Option Keyboard :=
  match c.byLegacyId[Text.nfc id]? with
  | some i => c.entries[i]?
  | none =>
    match Text.split '|' id with
    | [layout, locale] => c.get? layout locale
    | _ => none

/-- Adds a keyboard unless it is zero or its key is taken. Where two keys share an old
identifier, the first one keeps it. Also tells whether the keyboard is new. -/
def insert (k : Keyboard) : Bool × Catalog :=
  if k.isZero then (false, c)
  else
    let key := keyOf k.layout k.locale
    if c.byKey.contains key then (false, c)
    else
      let i := c.entries.size
      (true, {
        entries := c.entries.push k
        byKey := c.byKey.insert key i
        byLegacyId := c.byLegacyId.insertIfNew (Text.nfc k.legacyId) i })

/-- Adds keyboards in order and counts the new ones. -/
def insertAll (c : Catalog) (ks : List Keyboard) : Nat × Catalog :=
  ks.foldl (fun acc k =>
    let (new, c) := acc.2.insert k
    (if new then acc.1 + 1 else acc.1, c)) (0, c)

def ofList (ks : List Keyboard) : Catalog := (empty.insertAll ks).2

/-- The keyboards that can be used now. -/
def available : List Keyboard := c.toList.filter (·.available)

/-- The first keyboard that passes a test. -/
def find? (p : Keyboard → Bool) : Option Keyboard := c.toList.find? p

/-- Marks the keyboard with a key as usable or not. Also tells whether there is one. -/
def setAvailable (layout locale : String) (flag : Bool) : Bool × Catalog :=
  match c.byKey[keyOf layout locale]? with
  | some i => (true, { c with entries := c.entries.modify i ({ · with available := flag }) })
  | none => (false, c)

/-- The keyboard with a key, or zero. -/
def getOrZero (layout locale : String) : Keyboard :=
  if layout = "" ∧ locale = "" then .zero else (c.get? layout locale).getD .zero

/-- Every reading of a dash-joined identifier as layout and locale, the shortest layout first, so
that no part of a locale such as "en-GB" is taken for the layout as long as another reading fits. -/
def dashReadings (id : String) : List (String × String) :=
  (Text.cuts '-' id.toList).map fun p => (String.ofList p.1, String.ofList p.2)

/-- The first dash reading that names a keyboard. -/
def getDashed (id : String) : Keyboard :=
  ((dashReadings id).map fun p => c.getOrZero p.1 p.2).find? (!·.isZero) |>.getD .zero

/-- The keyboard that an identifier names: an old identifier taken verbatim, else `layout|locale`,
else a dash reading, else zero. With exactly one bar there is no dash reading. -/
def resolve (id : String) : Keyboard :=
  if id = "" then .zero
  else match if c.containsId id then c.getId? id else none with
    | some k => k
    | none =>
      match Text.split '|' id with
      | [layout, locale] => c.getOrZero layout locale
      | _ => c.getDashed id

end Catalog

end Keyboards
