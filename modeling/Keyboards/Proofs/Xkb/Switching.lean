import Keyboards.Proofs.Xkb.Listing
import Keyboards.Proofs.Xkb.Reports
import Keyboards.Xkb.Adaptor

/-! A host that reports what it was told ends up with the layout that the adaptor asks for. -/

namespace Keyboards

open Simulation Text Xkb

section

variable {σ α β : Type} {x : StateM σ α} {s t : σ} {a : α}

theorem run_bind_eq (x : StateM σ α) (f : α → StateM σ β) (s : σ) :
    (x >>= f).run s = (f (x.run s).1).run (x.run s).2 := rfl

theorem run_bind_of (h : x.run s = (a, t)) (f : α → StateM σ β) :
    (x >>= f).run s = (f a).run t := by
  rw [run_bind_eq, h]

end

namespace Xkb

/-- The names in a rules list are without white space. -/
theorem Layout.WellFormed.solid {l : Layout} (h : l.WellFormed) :
    ∀ c ∈ l.name.toList, isBlank c = false := by
  intro c hc
  rw [Layout.name] at hc
  cases hv : l.variant with
  | none =>
    rw [hv] at hc
    exact h.code.2 c hc
  | some v =>
    rw [hv, joinName_of_ne (h.variant v hv).1] at hc
    simp only [String.toList_append, List.mem_append] at hc
    rcases hc with ((hc | hc) | hc) | hc
    · exact h.code.2 c hc
    · obtain rfl : c = '(' := by simpa using hc
      decide
    · exact (h.variant v hv).2 c hc
    · obtain rfl : c = ')' := by simpa using hc
      decide

section

variable {σ : Type} {host : Host (StateM σ)} {t t' : State} {w w' : σ}

/-- A start fails and changes nothing, or the rules list is read and the layout in effect noted. -/
theorem start_cases {x : Except AdaptorError Unit}
    (ran : (answer host t .start).run w = ((x, t'), w')) :
    (∃ e, x = .error e) ∧ t' = t ∨ x = .ok () ∧ ∃ content layouts,
      (host.rules.run w).1 = .ok content ∧ Rules.read content = .ok layouts ∧
      t' = { t with layouts, initial := ((current host).run (host.rules.run w).2).1 } ∧
      w' = ((current host).run (host.rules.run w).2).2 := by
  rw [answer, begin, run_bind_eq] at ran
  cases hrules : (host.rules.run w).1 with
  | error e =>
    rw [hrules] at ran
    cases ran
    exact .inl ⟨⟨e, rfl⟩, rfl⟩
  | ok content =>
    rw [hrules] at ran
    dsimp only at ran
    cases hread : Rules.read content with
    | error e =>
      rw [hread] at ran
      cases ran
      exact .inl ⟨⟨e, rfl⟩, rfl⟩
    | ok layouts =>
      rw [hread] at ran
      dsimp only at ran
      rw [run_bind_eq] at ran
      cases ran
      exact .inr ⟨rfl, content, layouts, rfl, hread, rfl, rfl⟩

end

end Xkb

namespace Simulation.XkbHost

variable {w : Traced XkbHost} {code name : String} {variant : Option String}

/-- The host reports what is stored, and stores what it is told. -/
structure Faithful (h : XkbHost) : Prop where
  query : h.query = none
  queryError : h.queryError = none
  setError : h.setError = none

/-- What the host reports. -/
def reported (h : XkbHost) : String := report (h.layout.getD "") (h.variant.getD "")

/-- The layout in effect. -/
def current? (h : XkbHost) : Option String := (Query.read h.reported).toOption.bind (·.current?)

/-- The host once it was queried. -/
def queried (w : Traced XkbHost) : Traced XkbHost := { w with log := w.log ++ ["xkb host: query"] }

/-- The host once it was told a layout. -/
def switched (w : Traced XkbHost) (code : String) (variant : Option String) : Traced XkbHost :=
  ⟨{ w.state with layout := some code, variant := some (variant.getD "") },
    w.log ++ ["xkb host: set_layout " ++ code ++ " " ++ variant.getD "<none>"]⟩

theorem Faithful.switched (h : w.state.Faithful) : (switched w code variant).state.Faithful :=
  ⟨h.query, h.queryError, h.setError⟩

theorem run_query (h : w.state.Faithful) :
    host.query.run w = (.ok w.state.reported, queried w) := by
  obtain ⟨⟨present, rules, rulesError, query, queryError, layout, variant, setError⟩, log⟩ := w
  obtain ⟨hquery, herror, -⟩ := h
  cases hquery
  cases herror
  rfl

theorem run_rules (w : Traced XkbHost) : host.rules.run w =
    (match w.state.rulesError with | some e => .error e | none => .ok w.state.rules,
      { w with log := w.log ++ ["xkb host: rules"] }) := by
  obtain ⟨⟨present, rules, rulesError, query, queryError, layout, variant, setError⟩, log⟩ := w
  cases rulesError <;> rfl

theorem run_setLayout (h : w.state.Faithful) (code : String) (variant : Option String) :
    (host.setLayout code variant).run w = (.ok (), switched w code variant) := by
  obtain ⟨⟨present, rules, rulesError, query, queryError, layout, variant, setError⟩, log⟩ := w
  obtain ⟨-, -, herror⟩ := h
  cases herror
  rfl

theorem run_current (h : w.state.Faithful) :
    (current host).run w = (w.state.current?, queried w) := by
  rw [current, run_bind_of (run_query h), XkbHost.current?]
  dsimp only
  cases Query.read w.state.reported <;> rfl

theorem run_switchTo (h : w.state.Faithful) (name : String) : (switchTo host name).run w =
    (.ok (), if w.state.current? = some name then queried w
      else switched (queried w) (splitName name).1 (splitName name).2) := by
  rw [switchTo, run_bind_of (run_current h)]
  split
  · rfl
  · exact run_setLayout (w := queried w) h _ _

/-- A layout that the host is told is in effect from then on. -/
theorem current?_switched (hcode : Reportable code) (hvariant : Reportable (variant.getD "")) :
    (switched w code variant).state.current? = some (joinName code variant) := by
  have hread : Query.read (switched w code variant).state.reported =
      .ok ⟨some "evdev", some "pc105", [code], [variant.getD ""]⟩ :=
    Query.read_report hcode hvariant
  rw [XkbHost.current?, hread, ← joinName_getD]
  rfl

/-- A layout that is asked for by its name comes into effect. -/
theorem run_switchTo_joinName (h : w.state.Faithful) (hopen : '(' ∉ code.toList)
    (hcode : Reportable code) (hvariant : Reportable (variant.getD "")) :
    ∃ w', (switchTo host (joinName code variant)).run w = (.ok (), w') ∧
      (w' = queried w ∨ w' = switched (queried w) code (variant.filter (· ≠ ""))) ∧
      w'.state.Faithful ∧ w'.state.current? = some (joinName code variant) := by
  refine ⟨_, run_switchTo h _, ?_⟩
  rw [splitName_joinName hopen]
  split
  next hin => exact ⟨.inl rfl, h, hin⟩
  next =>
    -- The host stores an empty variant where none is told, and reports the same name for both.
    have hgetD : (variant.filter (· ≠ "")).getD "" = variant.getD "" := by
      cases variant with
      | none => rfl
      | some v => by_cases hv : v = "" <;> simp [Option.filter, hv]
    refine ⟨.inr rfl, .switched (w := queried w) h, ?_⟩
    rw [current?_switched hcode (hgetD ▸ hvariant), ← joinName_getD, hgetD, joinName_getD]

/-- What is in effect already is not asked for again. -/
theorem run_switchTo_again (h : w.state.Faithful) (hin : w.state.current? = some name) :
    (switchTo host name).run w = (.ok (), queried w) := by
  rw [run_switchTo h, if_pos hin]

end Simulation.XkbHost

namespace Xkb

open XkbHost

variable {s t : State} {w w₀ w₁ : Traced XkbHost} {name : String}

/-- The key of a keyboard that the host reports is that of its name, whatever the description. -/
theorem State.key_keyboardFor (s : State) (name description : String) :
    (s.keyboardFor name).key = (s.keyboardNamed name description).key := by
  rw [keyboardFor]
  split
  next l found =>
    have hname : l.name = name := by simpa using List.find?_some found
    rw [keyboardOf, hname]
    rfl
  next => rfl

theorem run_start {layouts : List Layout} (h : w.state.Faithful)
    (hrules : w.state.rulesError = none) (hread : Rules.read w.state.rules = .ok layouts) :
    (answer host s .start).run w = ((.ok (), { s with layouts, initial := w.state.current? }),
      { w with log := w.log ++ ["xkb host: rules"] ++ ["xkb host: query"] }) := by
  rw [answer, begin, run_bind_of (run_rules w), hrules]
  dsimp only
  rw [hread]
  dsimp only
  rw [run_bind_of (run_current (w := { w with log := w.log ++ ["xkb host: rules"] }) h)]
  rfl

/-- An adaptor that was started knows the rules list and the layout that was in effect. -/
theorem begin_faithful (h : w₀.state.Faithful)
    (begun : (answer host s .start).run w₀ = ((.ok (), t), w₁)) :
    Rules.read w₀.state.rules = .ok t.layouts ∧ t.initial = w₀.state.current? := by
  obtain ⟨⟨e, he⟩, -⟩ | ⟨-, content, layouts, hrules, hread, rfl, -⟩ := start_cases begun
  · cases he
  · rw [run_rules] at hrules
    have hinitial : ((current host).run (host.rules.run w₀).2).1 = w₀.state.current? := by
      rw [run_rules, run_current (by exact h)]
    refine ⟨?_, hinitial⟩
    split at hrules
    next => cases hrules
    next =>
      cases hrules
      exact hread

variable {w' : Traced XkbHost} {k : Keyboard}

theorem run_activate_of_listed (listed : t.layouts.any (·.name = k.layout) = true)
    (switching : (switchTo host k.layout).run w = (.ok (), w')) :
    (answer host t (.activate k)).run w = ((.ok (), t), w') := by
  rw [answer, activate, if_pos listed, run_bind_of switching]
  rfl

theorem run_activeKeyboard (h : w.state.Faithful) (hin : w.state.current? = some name)
    (description : String) : (answer host t .activeKeyboard).run w =
      ((some (t.keyboardNamed name description).key, t), queried w) := by
  rw [answer, run_bind_of (run_current h), hin, Option.map_some, t.key_keyboardFor name description]
  rfl

theorem run_deactivate_of_initial (hinitial : t.initial = some name)
    (switching : (switchTo host name).run w = (.ok (), w')) :
    (answer host t (.deactivate k)).run w = (((), t), w') := by
  have hdiscard : (discard (switchTo host name)).run w = ((), ((switchTo host name).run w).2) :=
    rfl
  rw [switching] at hdiscard
  rw [answer, restore, hinitial]
  dsimp only
  rw [run_bind_of hdiscard]
  rfl

/-- A keyboard of the list gets into use and stays there: its layout is told at most once, the
host then reports it, and to ask for it again changes nothing. When the keyboard is left the host
reports what it reported at the start. -/
theorem activation_takes_effect (faithful : w₀.state.Faithful)
    (begun : (answer host s .start).run w₀ = ((.ok (), t), w₁)) :
    Rules.read w₀.state.rules = .ok t.layouts ∧
    (∀ l ∈ t.layouts, '(' ∉ l.code.toList → ',' ∉ l.code.toList →
      (∀ v, l.variant = some v → ',' ∉ v.toList) → nfc l.name = l.name →
      ∀ w : Traced XkbHost, w.state.Faithful → ∃ w',
        (answer host t (.activate (t.keyboardOf l))).run w = ((.ok (), t), w') ∧
        (w' = queried w ∨ w' = switched (queried w) l.code l.variant) ∧ w'.state.Faithful ∧
        (answer host t .activeKeyboard).run w' = ((some (t.keyboardOf l).key, t), queried w') ∧
        (answer host t (.activate (t.keyboardOf l))).run w' = ((.ok (), t), queried w')) ∧
    ∀ q code, Query.read w₀.state.reported = .ok q → q.layouts.head? = some code →
      '(' ∉ code.toList → ∀ w : Traced XkbHost, w.state.Faithful → ∀ k, ∃ w',
        (answer host t (.deactivate k)).run w = (((), t), w') ∧
        (current host).run w' = (q.current?, queried w') := by
  obtain ⟨hread, hinitial⟩ := begin_faithful faithful begun
  refine ⟨hread, ?_, ?_⟩
  · intro l hl hopen hcode hvariant hnfc w hw
    have wellFormed := Rules.wellFormed_of_read hread hl
    have hname : (t.keyboardOf l).layout = l.name := hnfc
    have listed : t.layouts.any (·.name = (t.keyboardOf l).layout) = true := by
      rw [hname, List.any_eq_true]
      exact ⟨l, hl, by simp⟩
    obtain ⟨w', switching, hw', faithful', hin⟩ := run_switchTo_joinName hw hopen
      (.of_solid wellFormed.code.2 hcode)
      (.getD fun v hv => .of_solid (wellFormed.variant v hv).2 (hvariant v hv))
    rw [wellFormed.filter_variant] at hw'
    refine ⟨w', ?_, hw', faithful', run_activeKeyboard faithful' hin l.description, ?_⟩
    · exact run_activate_of_listed listed (by rw [hname]; exact switching)
    · refine run_activate_of_listed listed ?_
      rw [hname]
      exact run_switchTo_again faithful' hin
  · intro q code hq hhead hopen w hw k
    have hcurrent : q.current? = some (joinName code q.variants.head?) := by
      rw [Query.current?, hhead]
      rfl
    have clean := Query.clean_of_read hq
    obtain ⟨w', switching, -, faithful', hin⟩ := run_switchTo_joinName hw hopen
      (clean.layouts code (List.mem_of_head? hhead))
      (.getD fun v hv => clean.variants v (List.mem_of_head? hv))
    have hinit : t.initial = some (joinName code q.variants.head?) := by
      rw [hinitial, XkbHost.current?, hq, ← hcurrent]
      rfl
    refine ⟨w', run_deactivate_of_initial hinit switching, ?_⟩
    rw [run_current faithful', hin, hcurrent]

namespace Sample

/-- A host with a layout that has a variant, and another layout in effect. -/
def german : XkbHost where
  rules := "! layout\n  de  German\n! variant\n  nodeadkeys  de: German (no dead keys)\n"
  layout := some "us"

def noDeadKeys : Layout := ⟨"de", some "nodeadkeys", "German (no dead keys)"⟩

theorem faithful_german : german.Faithful := ⟨rfl, rfl, rfl⟩

theorem read_german :
    Rules.read german.rules = .ok [⟨"de", none, "German"⟩, noDeadKeys] := by
  decide +kernel

theorem key_noDeadKeys (layouts : List Layout) (initial : Option String) :
    (State.keyboardOf ⟨{}, layouts, initial⟩ noDeadKeys).key = ("de(nodeadkeys)", "de-DE") := by
  have hlocale : localeOf? .empty "de(nodeadkeys)" = some "de-DE" := by decide +kernel
  have hkey : (nfc "de(nodeadkeys)", nfc "de-DE") = ("de(nodeadkeys)", "de-DE") := by
    decide +kernel
  change (nfc "de(nodeadkeys)", nfc ((localeOf? .empty "de(nodeadkeys)").getD "")) = _
  rw [hlocale]
  exact hkey

end Sample

/-- A variant gets into use, and the layout that was in effect before comes back. -/
theorem activation_takes_effect_german : ∃ (t : State) (w₁ w₂ w₃ : Traced XkbHost),
    (answer host {} .start).run ⟨Sample.german, []⟩ = ((.ok (), t), w₁) ∧
    (answer host t (.activate (t.keyboardOf Sample.noDeadKeys))).run w₁ = ((.ok (), t), w₂) ∧
    (answer host t .activeKeyboard).run w₂ = ((some ("de(nodeadkeys)", "de-DE"), t), queried w₂) ∧
    (answer host t (.deactivate (t.keyboardOf Sample.noDeadKeys))).run w₂ = (((), t), w₃) ∧
    (current host).run w₃ = (some "us", queried w₃) := by
  have begun := run_start (s := {}) (w := ⟨Sample.german, []⟩) Sample.faithful_german rfl
    Sample.read_german
  obtain ⟨-, activation, restoration⟩ := activation_takes_effect Sample.faithful_german begun
  obtain ⟨w₂, activated, -, faithful, active, -⟩ := activation Sample.noDeadKeys (by decide)
    (by decide) (by decide) (by rintro v ⟨⟩; decide) (by decide +kernel) ⟨Sample.german, _⟩
    Sample.faithful_german
  have hread : Query.read (XkbHost.report "us" "") =
      .ok ⟨some "evdev", some "pc105", ["us"], [""]⟩ := by decide +kernel
  obtain ⟨w₃, left, back⟩ := restoration _ "us" hread rfl (by decide) w₂ faithful _
  rw [Sample.key_noDeadKeys] at active
  exact ⟨_, _, w₂, w₃, begun, activated, active, left, back⟩

end Xkb

end Keyboards
