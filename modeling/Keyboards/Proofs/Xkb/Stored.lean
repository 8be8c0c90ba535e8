import Keyboards.Proofs.Xkb.Reports
import Mathlib.Data.List.Induction

/-! What a host stores of the layouts in use, and what a report of it tells. -/

namespace Keyboards

open Simulation Text

namespace Xkb

/-- What a host stores of the layouts in use: a list of codes and beside it a list of variants. -/
structure Stored where
  layouts : String
  variants : String
deriving DecidableEq, Repr

namespace Stored

variable {x : Stored} {name : String}

/-- The first name of a list such as `de,us`. -/
def first (list : String) : String :=
  String.ofList (trimChars (list.toList.takeWhile (· ≠ ',')))

/-- The name of the layout in effect: the first code with the first variant. -/
def inEffect (x : Stored) : String := joinName (first x.layouts) (some (first x.variants))

/-- What a host stores that is told a layout by its name. -/
def told (name : String) : Stored := ⟨(splitName name).1, (splitName name).2.getD ""⟩

/-- A report is made of lines, so it can only hold what does not break one. -/
def OneLine (x : Stored) : Prop := '\n' ∉ x.layouts.toList ∧ '\n' ∉ x.variants.toList

instance : DecidablePred OneLine := fun x =>
  inferInstanceAs (Decidable ('\n' ∉ x.layouts.toList ∧ '\n' ∉ x.variants.toList))

/-- One layout is stored, by a code and a variant that make up a name. -/
structure Single (x : Stored) : Prop where
  opens : '(' ∉ x.layouts.toList
  layout : Reportable x.layouts
  variant : Reportable x.variants

end Stored

namespace Query

variable {output : String} {x : Stored} {q : Query} {line v : List Char} {ls : List (List Char)}
  {key : String}

/-- The value of a line `key: value`. -/
def value? (key : String) (line : List Char) : Option (List Char) :=
  ((cut? ':' line).filter (String.ofList ·.1 = key)).map fun p => trimChars p.2

/-- The values of a report under a key. -/
def values (key output : String) : List (List Char) :=
  (lines output.toList).filterMap (value? key)

/-- A report of what is stored: a line for the layouts and one for the variants, which may be
missing where there are none. What else it says does not matter. -/
structure Reports (output : String) (x : Stored) : Prop where
  layouts : values "layout" output = [trimChars x.layouts.toList]
  variants : values "variant" output = [trimChars x.variants.toList] ∨
    values "variant" output = [] ∧ x.variants = ""

theorem addLine_layouts (q : Query) (line : List Char) :
    (q.addLine line).layouts = ((value? "layout" line).map items).getD q.layouts := by
  rw [addLine, value?]
  cases cut? ':' line with
  | none => rfl
  | some p =>
    dsimp only
    split <;> simp_all [Option.filter]

theorem addLine_variants (q : Query) (line : List Char) :
    (q.addLine line).variants = ((value? "variant" line).map items).getD q.variants := by
  rw [addLine, value?]
  cases cut? ':' line with
  | none => rfl
  | some p =>
    dsimp only
    split <;> simp_all [Option.filter]

/-- Of the lines that set an entry the last one counts. -/
theorem foldl_addLine {entry : Query → List String} (sets : ∀ q line,
    entry (q.addLine line) = ((value? key line).map items).getD (entry q))
    (ls : List (List Char)) (q : Query) : entry (ls.foldl addLine q) =
      ((ls.filterMap (value? key)).getLast?.map items).getD (entry q) := by
  -- from the last line, which is the one that decides
  induction ls using List.reverseRecOn with
  | nil => rfl
  | append_singleton ls line ih =>
    rw [List.foldl_append, List.foldl_cons, List.foldl_nil, sets, ih, List.filterMap_append]
    cases hv : value? key line <;> simp [hv]

/-- A list begins with its first name. -/
theorem head?_items (list : String) :
    (items (trimChars list.toList)).head? = some (Stored.first list) := by
  rw [items, List.head?_map, head?_fields, Option.map_some,
    trimChars_takeWhile_trimChars (by decide), Stored.first]

/-- A report tells the layout in effect. -/
theorem current?_of_reports (h : Reports output x) :
    ∃ q, Query.read output = .ok q ∧ q.current? = some x.inEffect := by
  have hlayouts := foldl_addLine addLine_layouts (lines output.toList) {}
  have hvariants := foldl_addLine addLine_variants (lines output.toList) {}
  rw [← values, h.layouts] at hlayouts
  have hhead : ((lines output.toList).foldl addLine {}).layouts.head? =
      some (Stored.first x.layouts) := by
    rw [hlayouts]
    exact head?_items x.layouts
  refine ⟨(lines output.toList).foldl addLine {}, ?_, ?_⟩
  · rw [read, if_neg]
    intro hempty
    rw [List.isEmpty_iff.1 hempty] at hhead
    cases hhead
  · rw [current?, hhead, Option.map_some, Stored.inEffect]
    rw [← values] at hvariants
    rcases h.variants with hv | ⟨hv, hnone⟩
    · rw [hvariants, hv]
      exact congrArg (fun v => some (joinName _ v)) (head?_items x.variants)
    · rw [hvariants, hv, hnone]
      rfl

theorem value?_line (other : String) (hother : ':' ∉ other.toList) (key : String)
    (rest : List Char) : value? key (other.toList ++ ':' :: rest) =
      if other = key then some (trimChars rest) else none := by
  rw [value?, cut?_append hother, Option.filter]
  simp only [String.ofList_toList]
  split <;> simp_all

/-- The lines of a report, each with its key. -/
theorem lines_report_of_oneLine (oneLine : x.OneLine) :
    lines (XkbHost.report x.layouts x.variants).toList =
      ["rules".toList ++ ':' :: "      evdev".toList, "model".toList ++ ':' :: "      pc105".toList,
        "layout".toList ++ ':' :: ("     ".toList ++ dropReturn x.layouts.toList),
        "variant".toList ++ ':' :: ("    ".toList ++ dropReturn x.variants.toList)] := by
  have hlayout : '\n' ∉ "layout:     ".toList ++ x.layouts.toList :=
    List.not_mem_append (by decide) oneLine.1
  have hvariant : '\n' ∉ "variant:    ".toList ++ x.variants.toList :=
    List.not_mem_append (by decide) oneLine.2
  rw [toList_report, lines_append (by decide), lines_append (by decide), lines_append hlayout,
    lines_append hvariant, dropReturn_append (by decide), dropReturn_append (by decide)]
  rfl

/-- The simulated host gives a report of what is stored. -/
theorem reports_report (oneLine : x.OneLine) :
    Reports (XkbHost.report x.layouts x.variants) x := by
  have hlayout : trimChars ("     ".toList ++ dropReturn x.layouts.toList) =
      trimChars x.layouts.toList := by
    rw [trimChars_blanks_append _ (by decide), trimChars_dropReturn]
  have hvariant : trimChars ("    ".toList ++ dropReturn x.variants.toList) =
      trimChars x.variants.toList := by
    rw [trimChars_blanks_append _ (by decide), trimChars_dropReturn]
  refine ⟨?_, .inl ?_⟩ <;>
    simp only [values, lines_report_of_oneLine oneLine, List.filterMap_cons, List.filterMap_nil,
      value?_line "rules" (by decide), value?_line "model" (by decide),
      value?_line "layout" (by decide), value?_line "variant" (by decide),
      hlayout, hvariant, String.reduceEq, reduceIte]

end Query

namespace Stored

variable {x : Stored} {name : String}

theorem first_of_reportable {s : String} (h : Reportable s) : first s = s := by
  rw [first, List.takeWhile_eq_self_iff.2, h.trimmed.trimChars_eq, String.ofList_toList]
  intro c hc
  rw [decide_eq_true_eq]
  rintro rfl
  exact h.single hc

theorem mem_first {s : String} {c : Char} (h : c ∈ (first s).toList) : c ∈ s.toList ∧ c ≠ ',' := by
  rw [first, String.toList_ofList] at h
  have hpiece := trimChars_subset _ h
  exact ⟨(List.takeWhile_sublist _).subset hpiece, by simpa using List.mem_takeWhile_imp hpiece⟩

theorem reportable_first {s : String} (h : '\n' ∉ s.toList) : Reportable (first s) := by
  refine ⟨?_, fun hn => h (mem_first hn).1, fun hc => (mem_first hc).2 rfl⟩
  rw [first, String.toList_ofList]
  exact trimmed_trimChars _

/-- What is told of a name that is in effect is its code and its variant, alone. -/
theorem told_joinName {code : String} (opens : '(' ∉ code.toList) (variant : String) :
    told (joinName code (some variant)) = ⟨code, variant⟩ := by
  rw [told, splitName_joinName opens]
  by_cases h : variant = "" <;> simp [h, Option.filter]

/-- The code of a layout that is told opens no parenthesis. -/
theorem opens_told (name : String) : '(' ∉ (told name).layouts.toList := by
  rw [told]
  by_cases h : '(' ∈ name.toList
  · obtain ⟨code, rest, hname, hcode⟩ := List.eq_append_cons_of_mem h
    rw [splitName_of_opens hcode hname]
    simpa using hcode
  · rw [splitName_code h]
    exact h

theorem subset_of_unclose? {cs text : List Char} (h : unclose? cs = some text) : text ⊆ cs := by
  obtain rfl := unclose?_eq_some_iff.1 h
  exact List.subset_append_left text _

/-- Code and variant of a layout that is told are parts of its name. -/
theorem told_subset (name : String) :
    (told name).layouts.toList ⊆ name.toList ∧ (told name).variants.toList ⊆ name.toList := by
  rw [told]
  by_cases h : '(' ∈ name.toList
  · obtain ⟨code, rest, hname, hcode⟩ := List.eq_append_cons_of_mem h
    rw [splitName_of_opens hcode hname, hname]
    dsimp only
    refine ⟨by simp, ?_⟩
    cases hv : (unclose? rest).filter (!·.isEmpty) with
    | none => exact List.nil_subset _
    | some v =>
      have hsub : v ⊆ rest := subset_of_unclose? (Option.filter_eq_some_iff.1 hv).1
      have hname : rest ⊆ code ++ '(' :: rest := fun c hc => by simp [hc]
      rw [Option.map_some, Option.getD_some, String.toList_ofList]
      exact fun c hc => hname (hsub hc)
  · rw [splitName_code h]
    simp

/-- A name without white space that is not a list is all that is stored once it was told. -/
theorem single_told (solid : ∀ c ∈ name.toList, isBlank c = false) (single : ',' ∉ name.toList) :
    (told name).Single := by
  obtain ⟨hcode, hvariant⟩ := told_subset name
  exact ⟨opens_told name, .of_solid (fun c hc => solid c (hcode hc)) fun hc => single (hcode hc),
    .of_solid (fun c hc => solid c (hvariant hc)) fun hc => single (hvariant hc)⟩

theorem Single.oneLine (h : x.Single) : x.OneLine := ⟨h.layout.line, h.variant.line⟩

/-- A host that is told the layout in effect stores it as before exactly if it is all there is. -/
theorem told_inEffect_iff (oneLine : x.OneLine) : told x.inEffect = x ↔ x.Single := by
  constructor
  · intro h
    -- what is told has no parenthesis in its code, and what is in effect is trimmed and no list
    have opens : '(' ∉ x.layouts.toList := h ▸ opens_told x.inEffect
    have hfirst : '(' ∉ (first x.layouts).toList := fun hp => opens (mem_first hp).1
    rw [inEffect, told_joinName hfirst] at h
    have hlayout := congrArg layouts h
    have hvariant := congrArg variants h
    exact ⟨opens, hlayout ▸ reportable_first oneLine.1, hvariant ▸ reportable_first oneLine.2⟩
  · rintro ⟨opens, layout, variant⟩
    rw [inEffect, first_of_reportable layout, first_of_reportable variant, told_joinName opens]

end Stored

end Xkb

end Keyboards
