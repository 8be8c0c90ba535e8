import Keyboards.Proofs.Xkb.Calls
import Keyboards.Proofs.Xkb.Stored

/-! What a host stores after keyboards were activated and the last of them was left. -/

namespace Keyboards

open Simulation Text Xkb

namespace Xkb

section

variable {σ : Type} {host : Host (StateM σ)} {stored : σ → Stored} {intact : σ → Prop}
  {s t t' : State} {w w' w₀ w₁ w₂ w₃ : σ} {x : Stored} {k : Keyboard} {ks : List Keyboard}
  {name : String}

/-- The host reports what it stores, and stores what it is told. On the way to a state that is
intact no call has failed. -/
structure Host.Keeps (host : Host (StateM σ)) (stored : σ → Stored) (intact : σ → Prop) :
    Prop where
  rules : ∀ w, intact (host.rules.run w).2 → intact w ∧ stored (host.rules.run w).2 = stored w
  query : ∀ w, intact (host.query.run w).2 → intact w ∧ stored (host.query.run w).2 = stored w ∧
    ∃ output, (host.query.run w).1 = .ok output ∧
      ((stored w).OneLine → Query.Reports output (stored w))
  setLayout : ∀ w code variant, intact ((host.setLayout code variant).run w).2 → intact w ∧
    ((host.setLayout code variant).run w).1 = .ok () ∧
      stored ((host.setLayout code variant).run w).2 = ⟨code, variant.getD ""⟩

/-- What is stored after a layout was asked for, which is told unless it is in effect. -/
def Stored.chosen (x : Stored) (name : String) : Stored :=
  if x.inEffect = name then x else told name

theorem run_current_snd (host : Host (StateM σ)) (w : σ) :
    ((current host).run w).2 = (host.query.run w).2 := by
  rw [current, run_bind_eq]
  cases (host.query.run w).1 with
  | error e => rfl
  | ok output =>
    dsimp only
    cases Query.read output <;> rfl

namespace Host.Keeps

theorem current (keeps : host.Keeps stored intact) (h : intact ((current host).run w).2) :
    intact w ∧ stored ((Xkb.current host).run w).2 = stored w ∧
      ((stored w).OneLine → ((Xkb.current host).run w).1 = some (stored w).inEffect) := by
  rw [run_current_snd] at h
  obtain ⟨hw, hsame, output, houtput, reports⟩ := keeps.query w h
  refine ⟨hw, by rw [run_current_snd, hsame], fun oneLine => ?_⟩
  obtain ⟨q, hread, hcurrent⟩ := Query.current?_of_reports (reports oneLine)
  rw [Xkb.current, run_bind_eq, houtput]
  dsimp only
  rw [hread]
  exact hcurrent

theorem switchTo (keeps : host.Keeps stored intact)
    (h : intact ((switchTo host name).run w).2) : intact w ∧
      ((stored w).OneLine → ((Xkb.switchTo host name).run w).1 = .ok () ∧
        stored ((Xkb.switchTo host name).run w).2 = (stored w).chosen name) := by
  rw [Xkb.switchTo, run_bind_eq] at h ⊢
  by_cases hin : ((Xkb.current host).run w).1 = some name
  · rw [if_pos hin] at h ⊢
    obtain ⟨hw, hsame, tells⟩ := keeps.current h
    refine ⟨hw, fun oneLine => ⟨rfl, ?_⟩⟩
    rw [tells oneLine, Option.some.injEq] at hin
    rw [Stored.chosen, if_pos hin]
    exact hsame
  · rw [if_neg hin] at h ⊢
    obtain ⟨hqueried, hok, htold⟩ := keeps.setLayout _ _ _ h
    obtain ⟨hw, -, tells⟩ := keeps.current hqueried
    refine ⟨hw, fun oneLine => ⟨hok, ?_⟩⟩
    rw [tells oneLine, Option.some.injEq] at hin
    rw [Stored.chosen, if_neg hin]
    exact htold

/-- A start leaves what is stored as it is, and remembers the layout in effect. -/
theorem start (keeps : host.Keeps stored intact)
    (begun : (answer host s .start).run w₀ = ((.ok (), t), w₁)) (h : intact w₁) :
    intact w₀ ∧ stored w₁ = stored w₀ ∧ (∃ content, Rules.read content = .ok t.layouts) ∧
      ((stored w₀).OneLine → t.initial = some (stored w₀).inEffect) := by
  obtain ⟨⟨e, he⟩, -⟩ | ⟨-, content, layouts, -, hread, rfl, rfl⟩ := start_cases begun
  · cases he
  · obtain ⟨hlisted, hsame, tells⟩ := keeps.current h
    obtain ⟨hw, hkept⟩ := keeps.rules w₀ hlisted
    rw [hkept] at hsame tells
    exact ⟨hw, hsame, ⟨content, hread⟩, tells⟩

end Host.Keeps

/-- An activation succeeds for a listed layout, when that was switched to. -/
theorem activated (ran : (answer host t (.activate k)).run w = ((.ok (), t'), w')) :
    t.layouts.any (·.name = k.layout) = true ∧ w' = ((switchTo host k.layout).run w).2 := by
  rw [answer, activate] at ran
  by_cases listed : t.layouts.any (·.name = k.layout) = true
  · rw [if_pos listed, run_bind_eq] at ran
    exact ⟨listed, (congrArg Prod.snd ran).symm⟩
  · rw [if_neg listed, run_bind_eq] at ran
    cases ran

theorem left (ran : (answer host t (.deactivate k)).run w = (((), t'), w')) :
    w' = (t.initial.elim w fun name => ((switchTo host name).run w).2) := by
  rw [answer, restore, run_bind_eq] at ran
  cases hinitial : t.initial with
  | none =>
    rw [hinitial] at ran
    exact (congrArg Prod.snd ran).symm
  | some name =>
    rw [hinitial] at ran
    exact (congrArg Prod.snd ran).symm

/-- Where no call failed when a keyboard was left, none had failed before. -/
theorem Host.Keeps.intact_of_left (keeps : host.Keeps stored intact)
    (ran : (answer host t (.deactivate k)).run w = (((), t'), w')) (h : intact w') : intact w := by
  rw [left ran] at h
  cases hinitial : t.initial with
  | none =>
    rw [hinitial] at h
    exact h
  | some name =>
    rw [hinitial] at h
    exact (keeps.switchTo h).1

/-- Keyboards are activated one after another, all with success. -/
inductive Activated (host : Host (StateM σ)) (t : State) (w : σ) : List Keyboard → σ → Prop
  | nil : Activated host t w [] w
  | snoc {ks : List Keyboard} {k : Keyboard} {w' w'' : σ} (before : Activated host t w ks w')
      (ran : (answer host t (.activate k)).run w' = ((.ok (), t), w'')) :
      Activated host t w (ks ++ [k]) w''

/-- Either the layout in effect was activated over and over, or one layout alone is stored. -/
def Settled (x : Stored) (ks : List Keyboard) (y : Stored) : Prop :=
  (∀ k ∈ ks, k.layout = x.inEffect) ∧ y = x ∨ (¬ ∀ k ∈ ks, k.layout = x.inEffect) ∧ y.Single

theorem Stored.Single.chosen (h : x.Single) (name : String) : x.chosen name = told name := by
  rw [Stored.chosen]
  split
  next hin => rw [← hin, (told_inEffect_iff h.oneLine).2 h]
  next => rfl

theorem Settled.oneLine {y : Stored} (h : Settled x ks y) (oneLine : x.OneLine) : y.OneLine := by
  rcases h with ⟨-, rfl⟩ | ⟨-, hy⟩
  · exact oneLine
  · exact hy.oneLine

/-- One activation more. -/
theorem Settled.snoc {y : Stored} (h : Settled x ks y) (single : (Stored.told k.layout).Single) :
    Settled x (ks ++ [k]) (y.chosen k.layout) := by
  have hall : (∀ l ∈ ks ++ [k], l.layout = x.inEffect) ↔
      (∀ l ∈ ks, l.layout = x.inEffect) ∧ k.layout = x.inEffect := by
    simp [or_imp, forall_and]
  rw [Settled, hall]
  rcases h with ⟨same, rfl⟩ | ⟨other, hy⟩
  · by_cases hk : k.layout = y.inEffect
    · exact .inl ⟨⟨same, hk⟩, by rw [Stored.chosen, if_pos hk.symm]⟩
    · refine .inr ⟨fun h => hk h.2, ?_⟩
      rw [Stored.chosen, if_neg (Ne.symm hk)]
      exact single
  · refine .inr ⟨fun h => other h.1, ?_⟩
    rw [hy.chosen]
    exact single

theorem Activated.intact_first (keeps : host.Keeps stored intact) (path : Activated host t w₁ ks w)
    (h : intact w) : intact w₁ := by
  induction path with
  | nil => exact h
  | snoc before ran ih =>
    obtain ⟨-, rfl⟩ := activated ran
    exact ih (keeps.switchTo h).1

theorem Activated.settled (keeps : host.Keeps stored intact) (path : Activated host t w₁ ks w)
    (listed : ∃ content, Rules.read content = .ok t.layouts) (oneLine : (stored w₁).OneLine)
    (single : ∀ k ∈ ks, ',' ∉ k.layout.toList) (h : intact w) :
    Settled (stored w₁) ks (stored w) := by
  -- each activation either finds its layout in effect or leaves one layout stored
  induction path with
  | nil => exact .inl ⟨nofun, rfl⟩
  | snoc before ran ih =>
    rename_i ks k w' w''
    obtain ⟨hlisted, rfl⟩ := activated ran
    obtain ⟨hw, hswitch⟩ := keeps.switchTo h
    have settled := ih (fun l hl => single l (List.mem_append_left _ hl)) hw
    have hsolid : ∀ c ∈ k.layout.toList, isBlank c = false := by
      obtain ⟨content, hread⟩ := listed
      obtain ⟨l, hl, hname⟩ := List.any_eq_true.1 hlisted
      rw [decide_eq_true_eq] at hname
      rw [← hname]
      exact (Rules.wellFormed_of_read hread hl).solid
    rw [(hswitch (settled.oneLine oneLine)).2]
    exact settled.snoc (Stored.single_told hsolid (single k (by simp)))

end

end Xkb

namespace Simulation.XkbHost

variable {w : Traced XkbHost}

def stored (h : XkbHost) : Stored := ⟨h.layout.getD "", h.variant.getD ""⟩

theorem state_query (w : Traced XkbHost) : (host.query.run w).2.state = w.state := by
  obtain ⟨⟨present, rules, rulesError, query, queryError, layout, variant, setError⟩, log⟩ := w
  cases queryError <;> rfl

/-- To tell a layout does not mend a host. -/
theorem faithful_of_setLayout (w : Traced XkbHost) (code : String) (variant : Option String)
    (h : ((host.setLayout code variant).run w).2.state.Faithful) : w.state.Faithful := by
  obtain ⟨⟨present, rules, rulesError, query, queryError, layout, stored, setError⟩, log⟩ := w
  cases setError with
  | none =>
    obtain ⟨hquery, herror, -⟩ := h
    exact ⟨hquery, herror, rfl⟩
  | some e => exact h

/-- The simulated host keeps what it is told, unless it was set to fail. -/
theorem keeps : host.Keeps (fun w => w.state.stored) (fun w => w.state.Faithful) where
  rules w h := by
    have hstate : (host.rules.run w).2.state = w.state := by rw [run_rules]
    rw [hstate] at h ⊢
    exact ⟨h, rfl⟩
  query w h := by
    rw [state_query] at h ⊢
    exact ⟨h, rfl, _, congrArg Prod.fst (run_query h), Query.reports_report⟩
  setLayout w code variant h := by
    have hw := faithful_of_setLayout w code variant h
    rw [run_setLayout hw]
    exact ⟨hw, rfl, rfl⟩

theorem current?_eq (oneLine : w.state.stored.OneLine) :
    w.state.current? = some w.state.stored.inEffect := by
  obtain ⟨q, hread, hcurrent⟩ := Query.current?_of_reports (Query.reports_report oneLine)
  rw [XkbHost.current?, reported, ← hcurrent]
  exact congrArg (fun r => r.toOption.bind (·.current?)) hread

theorem exists_switchTo (h : w.state.Faithful) (oneLine : w.state.stored.OneLine) (name : String) :
    ∃ w', (switchTo host name).run w = (.ok (), w') ∧ w'.state.Faithful ∧
      w'.state.stored = w.state.stored.chosen name := by
  have hrun := run_switchTo h name
  rw [current?_eq oneLine] at hrun
  by_cases hin : w.state.stored.inEffect = name
  · rw [if_pos (congrArg some hin)] at hrun
    exact ⟨_, hrun, h, by rw [Stored.chosen, if_pos hin]; rfl⟩
  · rw [if_neg fun he => hin (Option.some.inj he)] at hrun
    exact ⟨_, hrun, .switched (w := queried w) h, by rw [Stored.chosen, if_neg hin]; rfl⟩

end Simulation.XkbHost

namespace Xkb

open XkbHost

section

variable {σ : Type} {host : Host (StateM σ)} {stored : σ → Stored} {intact : σ → Prop}
  {s t t' : State} {w₀ w₁ w₂ w₃ : σ} {k : Keyboard} {ks : List Keyboard}

/-- What is stored after keyboards were activated and left: what was stored at the start if nothing
was switched, and else the layout that was in effect then, alone. The user's settings come back
exactly if nothing was switched or they were one layout. -/
theorem stored_after_leaving (keeps : host.Keeps stored intact) (oneLine : (stored w₀).OneLine)
    (begun : (answer host s .start).run w₀ = ((.ok (), t), w₁)) (path : Activated host t w₁ ks w₂)
    (single : ∀ k ∈ ks, ',' ∉ k.layout.toList)
    (ran : (answer host t (.deactivate k)).run w₂ = (((), t'), w₃)) (unfailing : intact w₃) :
    t.initial = some (stored w₀).inEffect ∧
    stored w₃ = (if ∀ k ∈ ks, k.layout = (stored w₀).inEffect then stored w₀
      else .told (stored w₀).inEffect) ∧
    (stored w₃ = stored w₀ ↔
      (∀ k ∈ ks, k.layout = (stored w₀).inEffect) ∨ (stored w₀).Single) := by
  -- a call that failed would still show at the end, so none failed on the way
  have hw₂ := keeps.intact_of_left ran unfailing
  obtain ⟨-, hsame, listed, remembers⟩ := keeps.start begun (path.intact_first keeps hw₂)
  have hinitial := remembers oneLine
  have settled := path.settled keeps listed (hsame ▸ oneLine) single hw₂
  rw [hsame] at settled
  have hlast : stored w₃ = (stored w₂).chosen (stored w₀).inEffect := by
    have hw₃ := left ran
    rw [hinitial, Option.elim_some] at hw₃
    rw [hw₃] at unfailing ⊢
    exact ((keeps.switchTo unfailing).2 (settled.oneLine oneLine)).2
  refine ⟨hinitial, ?_⟩
  rcases settled with ⟨same, hw⟩ | ⟨other, hw⟩
  · have hback : stored w₃ = stored w₀ := by rw [hlast, hw, Stored.chosen, if_pos rfl]
    exact ⟨by rw [if_pos same, hback], iff_of_true hback (.inl same)⟩
  · have htold : stored w₃ = .told (stored w₀).inEffect := by rw [hlast, hw.chosen]
    refine ⟨by rw [if_neg other, htold], ?_⟩
    rw [htold, Stored.told_inEffect_iff oneLine, or_iff_right other]

end

namespace Sample

/-- A host with two layouts, of which the first has a variant. -/
def twoLayouts : XkbHost where
  rules := "! layout\n  us  English\n  de  German\n"
  layout := some "de,us"
  variant := some "nodeadkeys,"

/-- A host whose rules list has a list of codes for a layout. -/
def pairListed : XkbHost where
  rules := "! layout\n  de  German\n  de,us  Both\n"
  layout := some "de"

def oneLayout : XkbHost where
  rules := "! layout\n  us  English\n  de  German\n"
  layout := some "de"
  variant := some "nodeadkeys"

def english : Layout := ⟨"us", none, "English"⟩

def pair : Layout := ⟨"de,us", none, "Both"⟩

theorem read_twoLayouts :
    Rules.read twoLayouts.rules = .ok [english, ⟨"de", none, "German"⟩] := by
  decide +kernel

theorem read_pairListed :
    Rules.read pairListed.rules = .ok [⟨"de", none, "German"⟩, pair] := by
  decide +kernel

/-- A start, the activation of a layout of the rules list and its end leave `x` stored. -/
def Leaves (h : XkbHost) (l : Layout) (x : Stored) : Prop :=
  ∃ (t : State) (w₁ w₂ w₃ : Traced XkbHost),
    (answer host {} .start).run ⟨h, []⟩ = ((.ok (), t), w₁) ∧ t.initial.isSome = true ∧
    l ∈ t.layouts ∧ (t.keyboardOf l).layout = l.name ∧
    (answer host t (.activate (t.keyboardOf l))).run w₁ = ((.ok (), t), w₂) ∧
    (answer host t (.deactivate (t.keyboardOf l))).run w₂ = (((), t), w₃) ∧
    w₃.state.Faithful ∧ w₃.state.stored = x

theorem leaves {h : XkbHost} {layouts : List Layout} {l : Layout} (faithful : h.Faithful)
    (hrules : h.rulesError = none) (hread : Rules.read h.rules = .ok layouts) (hl : l ∈ layouts)
    (hnfc : nfc l.name = l.name) (before : h.stored.OneLine)
    (after : (h.stored.chosen l.name).OneLine) :
    Leaves h l ((h.stored.chosen l.name).chosen h.stored.inEffect) := by
  have begun := run_start (s := {}) (w := ⟨h, []⟩) faithful hrules hread
  have hinitial : h.current? = some h.stored.inEffect := current?_eq (w := ⟨h, []⟩) before
  rw [hinitial] at begun
  have hname : ∀ t : State, (t.keyboardOf l).layout = l.name := fun _ => hnfc
  obtain ⟨w₂, switched, faithful₂, hstored₂⟩ := exists_switchTo
    (w := ⟨h, [] ++ ["xkb host: rules"] ++ ["xkb host: query"]⟩) faithful before l.name
  rw [← hstored₂] at after ⊢
  obtain ⟨w₃, back, faithful₃, hstored₃⟩ := exists_switchTo faithful₂ after h.stored.inEffect
  refine ⟨_, _, w₂, w₃, begun, rfl, hl, hnfc, run_activate_of_listed ?_ ?_,
    run_deactivate_of_initial rfl back, faithful₃, hstored₃⟩
  · rw [hname, List.any_eq_true]
    exact ⟨l, hl, by simp⟩
  · rw [hname]
    exact switched

end Sample

/-- One layout with its variant comes back. -/
theorem oneLayout_comes_back :
    Sample.Leaves Sample.oneLayout Sample.english Sample.oneLayout.stored := by
  obtain ⟨t, w₁, w₂, w₃, begun, hinitial, mem, hname, activated, left, faithful, -⟩ :=
    Sample.leaves (h := Sample.oneLayout) (l := Sample.english) ⟨rfl, rfl, rfl⟩ rfl
      Sample.read_twoLayouts (by decide) (by decide +kernel) (by decide) (by decide)
  have single : ∀ k ∈ [] ++ [t.keyboardOf Sample.english], ',' ∉ k.layout.toList := by
    intro k hk
    rw [List.mem_singleton.1 hk, hname]
    decide
  obtain ⟨-, -, comes_back⟩ := stored_after_leaving keeps (by decide) begun
    (.snoc .nil activated) single left faithful
  have one : Sample.oneLayout.stored.Single :=
    (Stored.told_inEffect_iff (by decide)).1 (by decide +kernel)
  exact ⟨t, w₁, w₂, w₃, begun, hinitial, mem, hname, activated, left, faithful,
    comes_back.2 (.inr one)⟩

/-- Of two layouts the second is lost. Of one layout nothing is, but a list that the rules list has
for a layout stays. -/
theorem settings_lost :
    Sample.twoLayouts.stored = ⟨"de,us", "nodeadkeys,"⟩ ∧
    Sample.Leaves Sample.twoLayouts Sample.english ⟨"de", "nodeadkeys"⟩ ∧
    Sample.pairListed.stored = ⟨"de", ""⟩ ∧
    Sample.Leaves Sample.pairListed Sample.pair ⟨"de,us", ""⟩ := by
  refine ⟨rfl, ?_, rfl, ?_⟩
  · exact Sample.leaves ⟨rfl, rfl, rfl⟩ rfl Sample.read_twoLayouts (by decide) (by decide +kernel)
      (by decide) (by decide)
  · exact Sample.leaves ⟨rfl, rfl, rfl⟩ rfl Sample.read_pairListed (by decide) (by decide +kernel)
      (by decide) (by decide)

end Xkb

end Keyboards
