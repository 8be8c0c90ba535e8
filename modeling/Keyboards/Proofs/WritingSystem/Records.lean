import Keyboards.Proofs.Json.Objects
import Keyboards.WritingSystem.Record

/-! Records of writing systems: all comes back but the keyboard that was chosen, and nothing else
tells two records apart. -/

namespace Keyboards.WritingSystem

/-- The members of a record. A field that is absent has none. -/
def entries (ws : WritingSystem) : List (String × String) :=
  [("language_tag", ws.languageTag)] ++
    (ws.windowsId.toList.map fun s => ("windows_lcid", s)) ++
    (ws.keyboardName.toList.map fun s => ("keyboard", s))

/-- Under each name there is what the field of that name holds. -/
theorem named_entries (ws : WritingSystem) :
    let members := ws.entries.map Json.member
    named "language_tag" members = [.string (some ws.languageTag)] ∧
    named "windows_lcid" members = (ws.windowsId.toList.map fun s => .string (some s)) ∧
    named "keyboard" members = ws.keyboardName.toList.map fun s => .string (some s) := by
  obtain ⟨tag, _ | id, _ | name, keyboard⟩ := ws <;> simp [entries, named, Json.member]

/-- A member that is there at most once is the field that it was written for. -/
theorem optionalMember?_of_named {name : String} {members : List (Option String × Json.Value)}
    {field : Option String}
    (h : named name members = field.toList.map fun s => .string (some s)) :
    optionalMember? name members = some field := by
  rw [optionalMember?, h]
  cases field <;> rfl

theorem read?_toJson (ws : WritingSystem) :
    read? ws.toJson = some { ws with keyboard := none } := by
  obtain ⟨htag, hid, hname⟩ := ws.named_entries
  have hjson : Json.read? ws.toJson = some (.object (ws.entries.map Json.member)) :=
    Json.read?_compactObject ws.entries
  have hnames : (ws.entries.map Json.member).any (·.1.isNone) = false := by
    simp [Json.member]
  rw [read?, hjson, Option.bind_some, ofJson?, hnames, htag]
  simp [optionalMember?_of_named hid, optionalMember?_of_named hname]

/-- Whatever texts it holds, and whether or not its fields are there, a writing system is read back
from its record as it was, without the keyboard that was chosen for it. Two writing systems have one
record exactly if they agree in everything else. -/
theorem records_come_back (ws other : WritingSystem) :
    read? ws.toJson = some { ws with keyboard := none } ∧
    (ws.toJson = other.toJson ↔ ws.languageTag = other.languageTag ∧
      ws.windowsId = other.windowsId ∧ ws.keyboardName = other.keyboardName) := by
  refine ⟨ws.read?_toJson, ?_, ?_⟩
  · intro h
    have hread : read? ws.toJson = read? other.toJson := by rw [h]
    rw [ws.read?_toJson, other.read?_toJson, Option.some.injEq, mk.injEq] at hread
    obtain ⟨htag, hid, hname, -⟩ := hread
    exact ⟨htag, hid, hname⟩
  · rintro ⟨htag, hid, hname⟩
    rw [toJson, toJson, htag, hid, hname]

/-- An empty field is there, one that is absent is not, and neither is the keyboard. -/
example : toJson ⟨"qaa", some "", none, some .zero⟩ =
    "\x7b\"language_tag\":\"qaa\",\"windows_lcid\":\"\"\x7d" := by decide +kernel

end Keyboards.WritingSystem
