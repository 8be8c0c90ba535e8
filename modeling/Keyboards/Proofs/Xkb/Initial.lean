import Keyboards.Proofs.Text.Composition
import Keyboards.Proofs.Xkb.Calls
import Keyboards.Proofs.Xkb.Stored

/-! The layout that an adaptor remembers from its start, and the report that it stands in. -/

namespace Keyboards

open Simulation Text

namespace Xkb

variable {code name output : String} {q : Query}

/-- A text that begins otherwise than with the parenthesis that opens a variant. -/
def Coded (s : String) : Prop := ∃ c, s.toList.head? = some c ∧ c ≠ '('

theorem splitName_fst_ne_empty : (splitName name).1 ≠ "" ↔ Coded name := by
  rw [Coded, splitName]
  cases hname : name.toList with
  | nil => simp [cut?, String.toList_eq_nil_iff.1 hname]
  | cons c rest =>
    have hne : name ≠ "" := fun he => by simp [he] at hname
    by_cases hc : c = '('
    · simp [cut?, hc]
    · rw [cut?, if_neg hc]
      cases cut? '(' rest <;> simp [hc, hne, String.ext_iff]

/-- The variant behind a code does not make one. -/
theorem coded_joinName (code : String) (variant : Option String) :
    Coded (joinName code variant) ↔ Coded code := by
  cases variant with
  | none => rfl
  | some v =>
    by_cases hv : v = ""
    · rw [joinName, if_pos hv]
    · rw [joinName_of_ne hv, Coded, Coded]
      cases hcode : code.toList <;> simp [hcode]

namespace Query

/-- The first name on the layout line of a report. Of several such lines the last one counts. -/
def entry? (output : String) : Option String :=
  (values "layout" output).getLast?.map fun value => Stored.first (String.ofList value)

/-- What is read of the layouts is a list that begins with the entry. -/
theorem head?_layouts (output : String) :
    ((lines output.toList).foldl addLine {}).layouts.head? = entry? output := by
  have hlayouts := foldl_addLine addLine_layouts (lines output.toList) {}
  rw [← values] at hlayouts
  rw [hlayouts, entry?]
  cases hlast : (values "layout" output).getLast? with
  | none => rfl
  | some value =>
    obtain ⟨line, -, hvalue⟩ := List.mem_filterMap.1 (List.mem_of_getLast? hlast)
    obtain ⟨p, -, rfl⟩ := Option.map_eq_some_iff.1 hvalue
    have hhead := head?_items (String.ofList (trimChars p.2))
    rwa [String.toList_ofList, (trimmed_trimChars p.2).trimChars_eq] at hhead

/-- A report is refused exactly if it has no layout line. -/
theorem read_eq_error_iff {e : AdaptorError} : read output = .error e ↔
    entry? output = none ∧
      .unexpectedOutput "could not find the layout entry in setxkbmap output" = e := by
  rw [← head?_layouts, List.head?_eq_none_iff, read]
  split
  next hempty => simp [List.isEmpty_iff.1 hempty]
  next hfull => simp [List.isEmpty_iff.not.1 hfull]

/-- What a report tells of the layout in effect has a code exactly if its entry does. -/
theorem current?_of_read (h : read output = .ok q) : ∃ entry name, entry? output = some entry ∧
    q.current? = some name ∧ ((splitName name).1 ≠ "" ↔ Coded entry) := by
  rw [read] at h
  split at h
  next => cases h
  next hfull =>
    obtain rfl := Except.ok.inj h
    obtain ⟨entry, rest, hlayouts⟩ := List.exists_cons_of_ne_nil (List.isEmpty_iff.not.1 hfull)
    refine ⟨entry, _, by rw [← head?_layouts, hlayouts, List.head?_cons],
      by rw [current?, hlayouts, List.head?_cons, Option.map_some], ?_⟩
    rw [splitName_fst_ne_empty, coded_joinName]

end Query

section

variable {σ : Type} {host : Host (StateM σ)} {s t : State} {made : List Call} {w : σ}

/-- What an adaptor remembers was told by its host. -/
theorem Asked.tells (path : Asked host s made t)
    (told : ∀ name, s.initial = some name → ∃ w, host.Tells w name) :
    ∀ name, t.initial = some name → ∃ w, host.Tells w name := by
  induction path with
  | nil => exact told
  | @cons s s' t r x w w' made ran rest ih =>
    refine ih fun name hname => ?_
    cases r with
    | start =>
      obtain ⟨-, rfl⟩ | ⟨-, content, layouts, -, -, rfl, -⟩ := start_cases ran
      · exact told name hname
      · exact ⟨_, current_eq_some_iff.1 hname⟩
    | _ => exact told name ((congrArg (·.1.2.initial) ran).trans hname)

/-- A host whose calls that set a layout are noted. -/
def Host.noting (host : Host (StateM σ)) :
    Host (StateM (σ × List (String × Option String))) where
  isPresent w := (((host.isPresent.run w.1).1), ((host.isPresent.run w.1).2, w.2))
  rules w := ((host.rules.run w.1).1, ((host.rules.run w.1).2, w.2))
  query w := ((host.query.run w.1).1, ((host.query.run w.1).2, w.2))
  setLayout code variant w := (((host.setLayout code variant).run w.1).1,
    (((host.setLayout code variant).run w.1).2, w.2 ++ [(code, variant)]))

theorem run_current_noting (w : σ) (calls : List (String × Option String)) :
    (current host.noting).run (w, calls) =
      (((current host).run w).1, (((current host).run w).2, calls)) := by
  have hquery : host.noting.query.run (w, calls) =
    ((host.query.run w).1, ((host.query.run w).2, calls)) := rfl
  rw [current, current, run_bind_of hquery, run_bind_eq]
  cases (host.query.run w).1 with
  | error e => rfl
  | ok output =>
    dsimp only
    cases Query.read output <;> rfl

/-- When a keyboard is left, the host is told the layout that the adaptor remembers, unless none is
remembered or it is in effect. -/
theorem noted_deactivate (t : State) (k : Keyboard) (w : σ) :
    ((answer host.noting t (.deactivate k)).run (w, [])).2.2 =
      ((t.initial.filter fun name =>
        ((current host).run w).1 ≠ some name).map splitName).toList := by
  rw [answer, restore, run_bind_eq]
  cases t.initial with
  | none => rfl
  | some name =>
    have hdiscard : (discard (switchTo host.noting name)).run (w, []) =
      ((), ((switchTo host.noting name).run (w, [])).2) := rfl
    dsimp only
    rw [hdiscard, switchTo, run_bind_eq, run_current_noting]
    by_cases hin : ((current host).run w).1 = some name
    · simp only [hin, Option.filter, ne_eq, not_true_eq_false, decide_false, if_true]
      rfl
    · simp only [hin, Option.filter, ne_eq, not_false_eq_true, decide_true, if_true, if_false]
      rfl

/-- A default without a key is that of an empty name. -/
theorem initial_of_isZero {k : Keyboard}
    (hdefault : ((answer host t .defaultKeyboard).run w).1.1 = some k) (zero : k.isZero = true) :
    t.initial = some "" := by
  obtain ⟨name, hinitial, rfl⟩ := Option.map_eq_some_iff.1 hdefault
  rw [Keyboard.isZero, Bool.and_eq_true, decide_eq_true_eq] at zero
  have hlayout : (t.keyboardFor name).layout = nfc name :=
    congrArg Prod.fst (t.key_keyboardFor name "")
  rw [hinitial, nfc_eq_empty.1 (hlayout.symm.trans zero.1)]

/-- A report of the layouts in use is refused exactly if it has no layout line, and the layout that
it tells has a code exactly if its entry has one. An adaptor remembers what its host told at a
start, so it is by an entry without a code that the name is empty, that the default is a keyboard
without a key, and that the host is told an empty code when a keyboard is left. -/
theorem remembered_layout {settings : XkbSettings} (path : Asked host { settings } made t) :
    (∀ output e, Query.read output = .error e ↔ Query.entry? output = none ∧
      .unexpectedOutput "could not find the layout entry in setxkbmap output" = e) ∧
    (∀ output q, Query.read output = .ok q → ∃ entry name, Query.entry? output = some entry ∧
      q.current? = some name ∧ ((splitName name).1 ≠ "" ↔ Coded entry)) ∧
    (∀ name, t.initial = some name → ∃ w output entry, (host.query.run w).1 = .ok output ∧
      Query.entry? output = some entry ∧ ((splitName name).1 ≠ "" ↔ Coded entry)) ∧
    (∀ w k, ((answer host t .defaultKeyboard).run w).1.1 = some k → k.isZero = true →
      t.initial = some "") ∧
    ∀ w k, (∃ call ∈ ((answer host.noting t (.deactivate k)).run (w, [])).2.2, call.1 = "") ↔
      ∃ name, t.initial = some name ∧ (splitName name).1 = "" ∧
        ((current host).run w).1 ≠ some name := by
  refine ⟨fun _ _ => Query.read_eq_error_iff, fun _ _ => Query.current?_of_read, fun name h => ?_,
    fun _ _ => initial_of_isZero, fun w k => ?_⟩
  · obtain ⟨w, output, q, hquery, hread, hcurrent⟩ := path.tells nofun name h
    obtain ⟨entry, name', hentry, hcurrent', hcode⟩ := Query.current?_of_read hread
    obtain rfl := Option.some.inj (hcurrent.symm.trans hcurrent')
    exact ⟨w, output, entry, hquery, hentry, hcode⟩
  · rw [noted_deactivate]
    cases t.initial with
    | none => simp
    | some name => by_cases hin : ((current host).run w).1 = some name <;> simp [Option.filter, hin]

end

namespace Sample

/-- A host that reports a layout line with nothing on it. -/
def blankEntry : XkbHost where
  rules := "! layout\n  us  English\n"
  query := some "layout:\n"

def onlyEnglish : XkbHost where
  rules := "! layout\n  us  English\n"
  layout := some "us"

end Sample

theorem remembered_layout_english :
    ∃ made t, Asked XkbHost.host {} made t ∧ t.initial = some "us" ∧ ∀ w k,
      ∀ call ∈ ((answer XkbHost.host.noting t (.deactivate k)).run (w, [])).2.2, call.1 ≠ "" := by
  have begun : ∃ t w, (answer XkbHost.host {} .start).run ⟨Sample.onlyEnglish, []⟩ =
      ((.ok (), t), w) ∧ t.initial = some "us" := ⟨_, _, rfl, rfl⟩
  obtain ⟨t, w, ran, hinitial⟩ := begun
  have path : Asked XkbHost.host {} [⟨.start, .ok ()⟩] t := .cons ran .nil
  obtain ⟨-, -, -, -, calls⟩ := remembered_layout path
  refine ⟨_, t, path, hinitial, fun w k call hcall hempty => ?_⟩
  obtain ⟨name, hname, hcode, -⟩ := (calls w k).1 ⟨call, hcall, hempty⟩
  obtain rfl := Option.some.inj (hinitial.symm.trans hname)
  exact absurd hcode (by decide)

/-- A layout line with nothing on it is accepted and read as an empty name. -/
theorem empty_name_remembered :
    Query.read "layout:\n" = .ok ⟨none, none, [""], []⟩ ∧
      (⟨none, none, [""], []⟩ : Query).current? = some "" ∧
      ∃ t w, (answer XkbHost.host {} .start).run ⟨Sample.blankEntry, []⟩ = ((.ok (), t), w) ∧
        t.initial = some "" ∧ (t.keyboardFor "").isZero = true ∧
        ((answer XkbHost.host t (.deactivate .zero)).run
            ⟨{ w.state with query := some "layout: us\n" }, []⟩).2.log =
          ["xkb host: query", "xkb host: set_layout  <none>"] := by
  refine ⟨rfl, rfl, _, _, rfl, rfl, ?_, rfl⟩
  decide +kernel

end Xkb

end Keyboards
