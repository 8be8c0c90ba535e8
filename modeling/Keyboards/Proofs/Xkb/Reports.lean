import Keyboards.Proofs.Xkb.Names
import Keyboards.Simulation.Hosts

/-! Reading a report gives back what was reported. -/

namespace Keyboards.Xkb

open Text Simulation

variable {s layout variant output : String} {q : Query} {line value : List Char}

/-- A name that a report can hold: on one line, not a list, and without white space at its ends. -/
structure Reportable (s : String) : Prop where
  trimmed : Trimmed s.toList
  line : '\n' ∉ s.toList
  single : ',' ∉ s.toList

theorem reportable_empty : Reportable "" := ⟨⟨nofun, nofun⟩, nofun, nofun⟩

theorem Reportable.of_solid (solid : ∀ c ∈ s.toList, isBlank c = false) (single : ',' ∉ s.toList) :
    Reportable s :=
  ⟨.of_solid solid, fun h => absurd (solid _ h) (by decide), single⟩

/-- No variant is reported as an empty one. -/
theorem Reportable.getD {variant : Option String} (h : ∀ v, variant = some v → Reportable v) :
    Reportable (variant.getD "") := by
  cases variant with
  | none => exact reportable_empty
  | some v => exact h v rfl

namespace Query

theorem items_of_reportable (h : Reportable s) : items s.toList = [s] := by
  rw [items, fields_of_not_mem h.single, List.map_singleton, h.trimmed.trimChars_eq,
    String.ofList_toList]

theorem reportable_of_mem_items (hv : '\n' ∉ value) (h : s ∈ items value) : Reportable s := by
  obtain ⟨piece, hp, rfl⟩ := List.mem_map.1 h
  obtain ⟨single, within⟩ := mem_fields hp
  refine ⟨?_, ?_, ?_⟩ <;> rw [String.toList_ofList]
  · exact trimmed_trimChars piece
  · exact fun hn => hv (within (trimChars_subset piece hn))
  · exact fun hn => single (trimChars_subset piece hn)

/-- A line of a report sets one entry. -/
theorem addLine_layout (q : Query) (h : Reportable s) :
    q.addLine ("layout:     ".toList ++ s.toList) = { q with layouts := [s] } := by
  have hkey : ':' ∉ "layout".toList := by decide
  have hcut : cut? ':' ("layout:     ".toList ++ s.toList) =
      some ("layout".toList, "     ".toList ++ s.toList) := cut?_append hkey
  simp only [addLine, hcut, h.trimmed.trimChars_append "     ".toList (by decide),
    items_of_reportable h]
  rfl

theorem addLine_variant (q : Query) (h : Reportable s) :
    q.addLine ("variant:    ".toList ++ s.toList) = { q with variants := [s] } := by
  have hkey : ':' ∉ "variant".toList := by decide
  have hcut : cut? ':' ("variant:    ".toList ++ s.toList) =
      some ("variant".toList, "    ".toList ++ s.toList) := cut?_append hkey
  simp only [addLine, hcut, h.trimmed.trimChars_append "    ".toList (by decide),
    items_of_reportable h]
  rfl

theorem toList_report (layout variant : String) : (XkbHost.report layout variant).toList =
    "rules:      evdev".toList ++ '\n' :: ("model:      pc105".toList ++ '\n' ::
      (("layout:     ".toList ++ layout.toList) ++ '\n' ::
        (("variant:    ".toList ++ variant.toList) ++ '\n' :: []))) := by
  have hhead : "rules:      evdev\nmodel:      pc105\nlayout:     ".toList =
      "rules:      evdev".toList ++ '\n' :: ("model:      pc105".toList ++ '\n' ::
        "layout:     ".toList) := by decide +kernel
  have hnext : "\nvariant:    ".toList = '\n' :: "variant:    ".toList := by decide +kernel
  have hend : "\n".toList = ['\n'] := by decide +kernel
  unfold XkbHost.report
  simp only [String.toList_append, hhead, hnext, hend, List.append_assoc, List.cons_append]

theorem lines_report (hl : Reportable layout) (hv : Reportable variant) :
    lines (XkbHost.report layout variant).toList =
      ["rules:      evdev".toList, "model:      pc105".toList,
        "layout:     ".toList ++ layout.toList, "variant:    ".toList ++ variant.toList] := by
  have hlayout : '\n' ∉ "layout:     ".toList ++ layout.toList :=
    List.not_mem_append (by decide) hl.line
  have hvariant : '\n' ∉ "variant:    ".toList ++ variant.toList :=
    List.not_mem_append (by decide) hv.line
  rw [toList_report, lines_append (by decide), lines_append (by decide), lines_append hlayout,
    lines_append hvariant, hl.trimmed.dropReturn_append (by decide),
    hv.trimmed.dropReturn_append (by decide)]
  rfl

/-- A report of a layout and a variant is read as that. -/
theorem read_report (hl : Reportable layout) (hv : Reportable variant) :
    read (XkbHost.report layout variant) =
      .ok ⟨some "evdev", some "pc105", [layout], [variant]⟩ := by
  simp only [read, lines_report hl hv, List.foldl_cons, List.foldl_nil, addLine_layout _ hl,
    addLine_variant _ hv]
  rfl

/-- All names can be reported. -/
structure Clean (q : Query) : Prop where
  layouts : ∀ s ∈ q.layouts, Reportable s
  variants : ∀ s ∈ q.variants, Reportable s

theorem Clean.addLine (clean : q.Clean) (hline : '\n' ∉ line) : (q.addLine line).Clean := by
  rw [Query.addLine]
  split
  · exact clean
  next key rest hcut =>
    have hvalue : '\n' ∉ trimChars rest := fun hn =>
      hline (subset_of_cut? hcut (trimChars_subset rest hn))
    split
    · exact ⟨clean.layouts, clean.variants⟩
    · exact ⟨clean.layouts, clean.variants⟩
    · exact ⟨fun s => reportable_of_mem_items hvalue, clean.variants⟩
    · exact ⟨clean.layouts, fun s => reportable_of_mem_items hvalue⟩
    · exact clean

/-- What was read can be reported again. -/
theorem clean_of_read (h : read output = .ok q) : q.Clean := by
  rw [read] at h
  split at h
  · cases h
  · obtain rfl := Except.ok.inj h
    exact List.foldlRecOn _ _ ⟨nofun, nofun⟩ fun q clean line hline =>
      clean.addLine (mem_lines hline)

end Query

end Keyboards.Xkb
