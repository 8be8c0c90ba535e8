import Mathlib.Data.List.Induction
import Keyboards.Proofs.Toml.Documents
import Keyboards.Settings.Record

/-! Settings that are written and read back: all comes back but the absence of a setup program. -/

namespace Keyboards

namespace NameMap

variable {name text : String} {es : List (String × String)}

/-- A name above all others gets its entry behind theirs. -/
theorem place_above (above : ∀ e ∈ es, e.1 < name) : place name text es = es ++ [(name, text)] := by
  induction es with
  | nil => rfl
  | cons e es ih =>
    obtain ⟨he, hes⟩ := List.forall_mem_cons.1 above
    have hbelow : ¬ name < e.1 := String.lt_asymm he
    have hne : name ≠ e.1 := by
      rintro rfl
      exact String.lt_irrefl _ he
    rw [place, if_neg hbelow, if_neg hne, ih hes]
    rfl

/-- Entries in order make the map that has them. -/
theorem entries_ofList (sorted : es.Pairwise fun a b => a.1 < b.1) : (ofList es).entries = es := by
  induction es using List.reverseRecOn with
  | nil => rfl
  | append_singleton es e ih =>
    obtain ⟨hinit, -, habove⟩ := List.pairwise_append.1 sorted
    have hlast : (ofList (es ++ [e])).entries = place e.1 e.2 (ofList es).entries :=
      congrArg NameMap.entries (List.foldl_concat ..)
    rw [hlast, ih hinit]
    exact place_above fun a ha => habove a ha e List.mem_cons_self

theorem ofList_entries (m : NameMap) : ofList m.entries = m := by
  obtain ⟨es, sorted⟩ := m
  have hentries := entries_ofList sorted
  generalize ofList es = n at hentries ⊢
  obtain ⟨fs, _⟩ := n
  cases hentries
  rfl

end NameMap

namespace Data

theorem texts?_texts (ss : List String) : texts? (texts ss) = some ss := by
  change (ss.map text).mapM text? = some ss
  induction ss with
  | nil => rfl
  | cons s ss ih =>
    rw [List.map_cons, List.mapM_cons, ih]
    rfl

theorem textEntries?_table (es : List (String × String)) :
    textEntries? (.table (es.map fun e => (e.1, .text e.2))) = some es := by
  rw [textEntries?]
  induction es with
  | nil => rfl
  | cons e es ih =>
    rw [List.map_cons, List.mapM_cons, ih]
    rfl

end Data

open Data Toml

theorem isPart_text (s : String) : IsPart (.text s) := .value (.scalar (.text s))

theorem isPart_bool (b : Bool) : IsPart (.bool b) := .value (.scalar (.bool b))

theorem isPart_ofOption (s : Option String) : IsPart (ofOption .text s) := by
  cases s with
  | none => exact .null
  | some s => exact isPart_text s

theorem isPart_texts (ss : List String) : IsPart (texts ss) := by
  refine .value (.list ?_)
  intro d hd
  obtain ⟨s, -, rfl⟩ := List.mem_map.1 hd
  exact .text s

theorem isPart_nameMap (m : NameMap) :
    IsPart (.table (m.entries.map fun e => (e.1, .text e.2))) := by
  refine .table ?_ ?_
  · rw [List.map_map, List.nodup_iff_pairwise_ne, List.pairwise_map]
    refine m.sorted.imp ?_
    intro a b hlt he
    have hsame : a.1 = b.1 := he
    rw [hsame] at hlt
    exact String.lt_irrefl _ hlt
  · intro e he
    obtain ⟨e, -, rfl⟩ := List.mem_map.1 he
    exact .scalar (.text e.2)

/-- Settings for system layouts come back, with the usual setup program in place of none. -/
theorem XkbSettings.read?_write (s : XkbSettings) : XkbSettings.read? s.write =
    some { s with setupProgram := s.setupProgram <|> ({} : XkbSettings).setupProgram } := by
  obtain ⟨program, rules, setup, arguments, overrides⟩ := s
  let es : List (String × Data) := [("program", .text program), ("rules_path", .text rules),
    ("locale_overrides", .table (overrides.entries.map fun e => (e.1, .text e.2))),
    ("setup_program", ofOption .text setup), ("setup_arguments", texts arguments)]
  have hread : XkbSettings.read? (Toml.write es) =
      ofData? true (.table (es.filter isSimple ++ es.filter isTable)) := by
    rw [XkbSettings.read?, Toml.read?_write (by simp [es])
      (by simp [es, isPart_text, isPart_ofOption, isPart_texts, isPart_nameMap])]
    rfl
  have hfields : (Data.table (es.filter isSimple ++ es.filter isTable)).fields? true fieldNames =
      some [some (.text program), some (.text rules),
        some (.table (overrides.entries.map fun e => (e.1, .text e.2))), setup.map .text,
        some (texts arguments)] := by
    cases setup <;> rfl
  change XkbSettings.read? (Toml.write es) = _
  rw [hread, ofData?, hfields]
  cases setup <;>
    simp [orDefault, text?, textEntries?_table, texts?_texts, NameMap.ofList_entries, optionalText?]

/-- Settings for input methods come back, with the usual setup program in place of none. -/
theorem IbusSettings.read?_write (s : IbusSettings) : IbusSettings.read? s.write =
    some { s with setupProgram := s.setupProgram <|> ({} : IbusSettings).setupProgram } := by
  obtain ⟨program, neutral, xkb, setup⟩ := s
  let es : List (String × Data) := [("program", .text program), ("neutral_engine", .text neutral),
    ("include_xkb_engines", .bool xkb), ("setup_program", ofOption .text setup)]
  have hread : IbusSettings.read? (Toml.write es) =
      ofData? true (.table (es.filter isSimple ++ es.filter isTable)) := by
    rw [IbusSettings.read?, Toml.read?_write (by simp [es])
      (by simp [es, isPart_text, isPart_ofOption, isPart_bool])]
    rfl
  have hfields : (Data.table (es.filter isSimple ++ es.filter isTable)).fields? true fieldNames =
      some [some (.text program), some (.text neutral), some (.bool xkb), setup.map .text] := by
    cases setup <;> rfl
  change IbusSettings.read? (Toml.write es) = _
  rw [hread, ofData?, hfields]
  cases setup <;> simp [orDefault, text?, bool?, optionalText?]

/-- Whatever texts, lists and maps settings hold, they can be read back once they are written, and
they are what they were exactly if they name a setup program. -/
theorem settings_come_back (x : XkbSettings) (y : IbusSettings) :
    (XkbSettings.read? x.write =
        some { x with setupProgram := x.setupProgram <|> ({} : XkbSettings).setupProgram } ∧
      (XkbSettings.read? x.write = some x ↔ x.setupProgram ≠ none)) ∧
    IbusSettings.read? y.write =
        some { y with setupProgram := y.setupProgram <|> ({} : IbusSettings).setupProgram } ∧
      (IbusSettings.read? y.write = some y ↔ y.setupProgram ≠ none) := by
  refine ⟨⟨x.read?_write, ?_⟩, y.read?_write, ?_⟩
  · rw [x.read?_write, Option.some.injEq]
    obtain ⟨program, rules, _ | setup, arguments, overrides⟩ := x <;> simp
  · rw [y.read?_write, Option.some.injEq]
    obtain ⟨program, neutral, xkb, _ | setup⟩ := y <;> simp

/-- Settings without a setup program are read back with the usual one. -/
theorem no_setup_program_lost :
    let x : XkbSettings := { setupProgram := none }
    x.write = "program = \"setxkbmap\"\nrules_path = \"/usr/share/X11/xkb/rules/evdev.lst\"\n" ++
      "setup_arguments = [\"region\"]\n\n[locale_overrides]\n" ∧
    XkbSettings.read? x.write = some {} ∧ XkbSettings.read? x.write ≠ some x := by
  intro x
  have hread : XkbSettings.read? x.write = some {} := x.read?_write
  refine ⟨by decide +kernel, hread, ?_⟩
  rw [hread]
  decide

end Keyboards
