import Keyboards.Proofs.World.Actors

/-! What the actors of a world do when they are told to switch. -/

namespace Keyboards

open Simulation Text

namespace Xkb

/-- A name that a host can be told and that it reports again: no parenthesis opens in its code, and
neither part is a list. -/
def Reported (name : String) : Prop :=
  ∃ code variant, name = joinName code variant ∧ '(' ∉ code.toList ∧ ',' ∉ code.toList ∧
    ∀ v, variant = some v → ',' ∉ v.toList

theorem mem_joinName_code {code : String} {c : Char} (variant : Option String)
    (h : c ∈ code.toList) : c ∈ (joinName code variant).toList := by
  cases variant with
  | none => exact h
  | some v => by_cases hv : v = "" <;> simp [joinName, hv, h]

theorem mem_joinName_variant {code v : String} {c : Char} (h : c ∈ v.toList) :
    c ∈ (joinName code (some v)).toList := by
  have hv : v ≠ "" := by
    rintro rfl
    cases h
  rw [joinName_of_ne hv]
  simp [h]

end Xkb

namespace Simulation

variable {k : Keyboard} {name : String} {e : AdaptorError}

namespace XkbHost

variable {h : XkbHost}

theorem Faithful.inEffect?_eq (hf : h.Faithful) : h.inEffect? = h.current? := by
  rw [inEffect?, hf.queryError, hf.query]
  rfl

/-- A switch is refused by the host, which then stays as it was. -/
theorem switchTo_refused (refused : ((Xkb.switchTo host name).run ⟨h, []⟩).1 = .error e) :
    ((Xkb.switchTo host name).run ⟨h, []⟩).2.state = h := by
  rw [Xkb.switchTo, run_bind_of (run_current_any h [])] at refused ⊢
  split at refused
  · cases refused
  next hne =>
    rw [if_neg hne]
    obtain ⟨present, rules, rulesError, query, queryError, layout, variant, setError⟩ := h
    cases setError with
    | some => rfl
    | none => cases refused

end XkbHost

namespace IbusHost

variable {h : IbusHost}

theorem run_currentEngine (h : IbusHost) (log : List String) :
    host.currentEngine.run ⟨h, log⟩ =
      (match h.currentError with | some e => .error e | none => .ok (h.engine.getD ""),
        ⟨h, log ++ ["ibus host: current_engine"]⟩) := by
  obtain ⟨present, listing, listError, engine, currentError, setError⟩ := h
  cases currentError <;> rfl

theorem setEngine_refused {log : List String}
    (refused : ((host.setEngine name).run ⟨h, log⟩).1 = .error e) :
    ((host.setEngine name).run ⟨h, log⟩).2.state = h := by
  obtain ⟨present, listing, listError, engine, currentError, setError⟩ := h
  cases setError with
  | some => rfl
  | none => cases refused

theorem switchTo_refused (refused : ((Ibus.switchTo host name).run ⟨h, []⟩).1 = .error e) :
    ((Ibus.switchTo host name).run ⟨h, []⟩).2.state = h := by
  rw [Ibus.switchTo, run_bind_of (run_currentEngine h [])] at refused ⊢
  cases hc : h.currentError with
  | some =>
    rw [hc] at refused
    exact setEngine_refused refused
  | none =>
    rw [hc] at refused
    dsimp only at refused ⊢
    split at refused
    · cases refused
    next hne =>
      rw [if_neg hne]
      exact setEngine_refused refused

/-- The host tells the engine in use and takes another. -/
structure Faithful (h : IbusHost) : Prop where
  currentError : h.currentError = none
  setError : h.setError = none

/-- An engine that is asked for by its name comes into use. -/
theorem run_switchTo (hf : h.Faithful) (name : String) :
    ∃ h' log, (Ibus.switchTo host name).run ⟨h, []⟩ = (.ok (), ⟨h', log⟩) ∧ h'.Faithful ∧
      h'.engine.getD "" = name := by
  obtain ⟨present, listing, listError, engine, currentError, setError⟩ := h
  obtain ⟨hc, hs⟩ := hf
  cases hc
  cases hs
  rw [Ibus.switchTo, run_bind_of (run_currentEngine _ [])]
  dsimp only
  split
  next hin => exact ⟨_, _, rfl, ⟨rfl, rfl⟩, hin⟩
  next => exact ⟨_, _, rfl, ⟨rfl, rfl⟩, rfl⟩

end IbusHost

namespace Actor

variable {x y : Actor}

/-- An adaptor has a name in its list. -/
def Lists (name : String) : Actor → Prop
  | xkb _ state => ∃ l ∈ state.layouts, l.name = name
  | ibus _ state => ∃ e ∈ state.engines, e.name = name
  | scripted _ => True

/-- All names are words that come from a rules list. -/
def WordNames : Actor → Prop
  | xkb _ state => ∀ l ∈ state.layouts, l.WellFormed
  | ibus .. | scripted _ => True

/-- The host refuses nothing, and what it is told under a name it reports under that name. -/
def Willing (name : String) : Actor → Prop
  | xkb host _ => host.Faithful ∧ Xkb.Reported name
  | ibus host _ => host.Faithful
  | scripted _ => False

/-- The name that the host reports. -/
def reported? : Actor → Option String
  | xkb host _ => host.inEffect?
  | ibus host _ => if host.currentError.isSome then none else some (host.engine.getD "")
  | scripted _ => none

theorem lists_congr (h : x.bare = y.bare) : x.Lists name ↔ y.Lists name := by
  have hbare : ∀ x : Actor, x.bare.Lists name ↔ x.Lists name := by
    intro x
    cases x <;> exact Iff.rfl
  rw [← hbare x, h, hbare y]

theorem wordNames_congr (h : x.bare = y.bare) : x.WordNames ↔ y.WordNames := by
  have hbare : ∀ x : Actor, x.bare.WordNames ↔ x.WordNames := by
    intro x
    cases x <;> exact Iff.rfl
  rw [← hbare x, h, hbare y]

theorem wordNames_started (h : (x.answer .start).1 = .ok ()) : x.started.WordNames := by
  cases x with
  | xkb host state =>
    have hstart := answer_start_xkb host state
    cases hl : host.layouts? with
    | error e =>
      rw [hl] at hstart
      cases h.symm.trans (Prod.mk.inj hstart).1
    | ok layouts =>
      rw [hl] at hstart
      rw [(Prod.mk.inj hstart).2]
      rw [XkbHost.layouts?] at hl
      split at hl
      · cases hl
      · exact fun l => Xkb.Rules.wellFormed_of_read hl
  | ibus | scripted => exact trivial

/-- What is accepted is in the list. -/
theorem lists_of_activate (h : (x.answer (.activate k)).1 = .ok ()) : x.Lists k.layout := by
  by_contra hn
  cases x with
  | xkb host state =>
    have hrefused : (Xkb.answer XkbHost.host state (.activate k)).run ⟨host, []⟩ = _ :=
      Xkb.activate_unlisted hn
    rw [answer_xkb hrefused] at h
    cases h
  | ibus host state =>
    have hrefused : (Ibus.answer IbusHost.host state (.activate k)).run ⟨host, []⟩ = _ :=
      Ibus.activate_unlisted hn
    rw [answer_ibus hrefused] at h
    cases h
  | scripted => exact hn trivial

/-- Who refuses a keyboard stays as it was. -/
theorem answer_activate_refused (h : (x.answer (.activate k)).1 = .error e) :
    (x.answer (.activate k)).2.1 = x := by
  cases x with
  | xkb host state =>
    have hrefused : ((Xkb.activate XkbHost.host state k).run ⟨host, []⟩).1 = .error e := h
    have hsame : ((Xkb.activate XkbHost.host state k).run ⟨host, []⟩).2.state = host := by
      rw [Xkb.activate] at hrefused ⊢
      split at hrefused
      next listed =>
        rw [if_pos listed]
        exact XkbHost.switchTo_refused hrefused
      next unlisted =>
        rw [if_neg unlisted]
        rfl
    exact congrArg (xkb · state) hsame
  | ibus host state =>
    have hrefused : ((Ibus.activate IbusHost.host state k).run ⟨host, []⟩).1 = .error e := h
    have hsame : ((Ibus.activate IbusHost.host state k).run ⟨host, []⟩).2.state = host := by
      rw [Ibus.activate] at hrefused ⊢
      split at hrefused
      next listed =>
        rw [if_pos listed]
        exact IbusHost.switchTo_refused hrefused
      next unlisted =>
        rw [if_neg unlisted]
        rfl
    exact congrArg (ibus · state) hsame
  | scripted => rfl

theorem willing_deactivate (h : x.Willing name) : (x.answer (.deactivate k)).2.1.Willing name := by
  cases x with
  | xkb host state =>
    refine ⟨?_, h.2⟩
    change ((Xkb.restore XkbHost.host state).run ⟨host, []⟩).2.state.Faithful
    rw [Xkb.restore]
    cases state.initial with
    | none => exact h.1
    | some initial =>
      change ((Xkb.switchTo XkbHost.host initial).run ⟨host, []⟩).2.state.Faithful
      rw [XkbHost.run_switchTo (w := ⟨host, []⟩) h.1]
      split
      · exact h.1
      · exact h.1.switched (w := XkbHost.queried ⟨host, []⟩)
  | ibus host state =>
    obtain ⟨host', log, hrun, hfaithful, -⟩ :=
      IbusHost.run_switchTo h state.settings.neutralEngine
    change ((Ibus.switchTo IbusHost.host state.settings.neutralEngine).run ⟨host, []⟩).2.state.Faithful
    rw [hrun]
    exact hfaithful
  | scripted => exact h

/-- A keyboard of the list gets into use if the host refuses nothing. -/
theorem reported?_activate (h : x.Willing k.layout) (listed : x.Lists k.layout)
    (words : x.WordNames) : (x.answer (.activate k)).2.1.reported? = some k.layout := by
  cases x with
  | xkb host state =>
    obtain ⟨faithful, code, variant, hname, hopen, hcode, hvariant⟩ := h
    obtain ⟨l, hl, hlayout⟩ := listed
    have hsolid := (words l hl).solid
    rw [hlayout, hname] at hsolid
    have hparts : Xkb.Reportable code ∧ Xkb.Reportable (variant.getD "") := by
      refine ⟨.of_solid (fun c hc => hsolid c (Xkb.mem_joinName_code variant hc)) hcode, .getD ?_⟩
      rintro v rfl
      exact .of_solid (fun c hc => hsolid c (Xkb.mem_joinName_variant hc)) (hvariant v rfl)
    obtain ⟨t, hrun, -, hfaithful, hcurrent⟩ :=
      XkbHost.run_switchTo_joinName (w := ⟨host, []⟩) faithful hopen hparts.1 hparts.2
    rw [← hname] at hrun hcurrent
    have hany : state.layouts.any (·.name = k.layout) = true := by
      rw [List.any_eq_true]
      exact ⟨l, hl, by simpa using hlayout⟩
    rw [answer_xkb (Xkb.run_activate_of_listed hany hrun)]
    exact hfaithful.inEffect?_eq.trans hcurrent
  | ibus host state =>
    obtain ⟨host', log, hrun, hfaithful, hengine⟩ := IbusHost.run_switchTo h k.layout
    obtain ⟨l, hl, hlayout⟩ := listed
    have hany : state.engines.any (·.name = k.layout) = true := by
      rw [List.any_eq_true]
      exact ⟨l, hl, by simpa using hlayout⟩
    have hactivate : (Ibus.answer IbusHost.host state (.activate k)).run ⟨host, []⟩ =
        ((.ok (), state), ⟨host', log⟩) := by
      rw [Ibus.answer, Ibus.activate, if_pos hany, run_bind_of hrun]
      rfl
    rw [answer_ibus hactivate, reported?, hfaithful.currentError, hengine]
    rfl
  | scripted => exact h.elim

end Actor

namespace World

/-- One adaptor lets go of its keyboard, another refuses one, and the first goes back: the other
actor is as it was. -/
theorem actors_detour {a b : Adaptor} {k r : Keyboard} (w : World) (hne : a.handle ≠ b.handle)
    (refuses : ((w.ask a (.deactivate k)).2.ask b (.activate r)).1 = .error e) :
    let back := (((w.ask a (.deactivate k)).2.ask b (.activate r)).2.ask a (.activate k)).2
    back.actor a.handle =
      (((w.actor a.handle).answer (.deactivate k)).2.1.answer (.activate k)).2.1 ∧
    back.actor b.handle = w.actor b.handle := by
  intro back
  let left := (w.ask a (.deactivate k)).2
  have hleft : left.actor b.handle = w.actor b.handle := actor_ask_other w hne _
  rw [ask_fst] at refuses
  constructor
  · rw [actor_ask_self, actor_ask_other left hne.symm, actor_ask_self]
  · rw [actor_ask_other _ hne, actor_ask_self, Actor.answer_activate_refused refuses, hleft]

end World

end Simulation

end Keyboards
