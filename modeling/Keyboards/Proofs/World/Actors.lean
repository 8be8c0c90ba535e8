import Keyboards.Proofs.Acceptance
import Keyboards.Proofs.Session.Calls
import Keyboards.Proofs.World.Commands

/-! What requests do to the actors of a world, and what they leave alone. -/

namespace Keyboards

/-- Requests that leave an adaptor and its host as they are. -/
def Request.isHarmless : Request → Bool
  | .start | .close | .activate _ | .deactivate _ | .focus _ => false
  | _ => true

namespace Simulation

open History

namespace XkbHost

variable {h : XkbHost} {log : List String}

/-- What a start reads from the rules list. -/
def layouts? (h : XkbHost) : Except AdaptorError (List Xkb.Layout) :=
  match h.rulesError with
  | some e => .error e
  | none => Xkb.Rules.read h.rules

/-- The layout that an adaptor takes to be in effect. -/
def inEffect? (h : XkbHost) : Option String :=
  match h.queryError with
  | some _ => none
  | none => (Xkb.Query.read (h.query.getD h.reported)).toOption.bind (·.current?)

theorem run_current_any (h : XkbHost) (log : List String) :
    (Xkb.current host).run ⟨h, log⟩ = (h.inEffect?, ⟨h, log ++ ["xkb host: query"]⟩) := by
  obtain ⟨present, rules, rulesError, query, queryError, layout, variant, setError⟩ := h
  cases queryError with
  | some e => rfl
  | none =>
    have hquery : host.query.run ⟨⟨present, rules, rulesError, query, none, layout, variant,
        setError⟩, log⟩ = (.ok (query.getD (report (layout.getD "") (variant.getD ""))),
          ⟨⟨present, rules, rulesError, query, none, layout, variant, setError⟩,
            log ++ ["xkb host: query"]⟩) := rfl
    rw [Xkb.current, run_bind_of hquery, inEffect?]
    dsimp only [reported]
    cases Xkb.Query.read (query.getD (report (layout.getD "") (variant.getD ""))) <;> rfl

theorem run_start (h : XkbHost) (s : Xkb.State) :
    (Xkb.answer host s .start).run ⟨h, []⟩ =
      match h.layouts? with
      | .ok layouts => ((.ok (), { s with layouts, initial := h.inEffect? }),
          ⟨h, ["xkb host: rules", "xkb host: query"]⟩)
      | .error e => ((.error e, s), ⟨h, ["xkb host: rules"]⟩) := by
  rw [Xkb.answer, Xkb.begin, run_bind_of (run_rules ⟨h, []⟩), layouts?]
  cases h.rulesError with
  | some e => rfl
  | none =>
    dsimp only
    cases Xkb.Rules.read h.rules with
    | error e => rfl
    | ok layouts =>
      dsimp only
      rw [run_bind_of (run_current_any h _)]
      rfl

end XkbHost

namespace IbusHost

/-- What a start reads from the listing. -/
def engines? (h : IbusHost) : Except AdaptorError (List Ibus.Engine) :=
  match h.listError with
  | some e => .error e
  | none => Ibus.Engine.readList h.listing

theorem run_start (h : IbusHost) (s : Ibus.State) :
    (Ibus.answer host s .start).run ⟨h, []⟩ =
      (match h.engines? with
      | .ok engines => (.ok (), { s with
          engines := engines.filter fun e => s.settings.includeXkbEngines || !e.isXkb })
      | .error e => (.error e, s), ⟨h, ["ibus host: list_engines"]⟩) := by
  obtain ⟨present, listing, listError, engine, currentError, setError⟩ := h
  cases listError with
  | some e => rfl
  | none =>
    have hlisting : host.listEngines.run ⟨⟨present, listing, none, engine, currentError, setError⟩,
        []⟩ = (.ok listing, ⟨⟨present, listing, none, engine, currentError, setError⟩,
          ["ibus host: list_engines"]⟩) := rfl
    rw [Ibus.answer, Ibus.begin, run_bind_of hlisting, engines?]
    dsimp only
    cases Ibus.Engine.readList listing <;> rfl

theorem state_active (s : Ibus.State) (t : Traced IbusHost) :
    ((Ibus.active host s).run t).2.state = t.state := by
  obtain ⟨⟨present, listing, listError, engine, currentError, setError⟩, log⟩ := t
  cases currentError <;> rfl

end IbusHost

deriving instance DecidableEq for Actor

namespace Actor

variable {x y : Actor} {r : Request}

/-- An actor without its host and without its focus targets. -/
def bare : Actor → Actor
  | xkb _ state => xkb {} state
  | ibus _ state => ibus {} { state with targets := [] }
  | scripted s => scripted s

/-- An actor over the same host that was never started. -/
def renewed : Actor → Actor
  | xkb host state => xkb host { settings := state.settings }
  | ibus host state => ibus host { settings := state.settings }
  | scripted s => scripted s

/-- One of the two adaptors that come with a host of their own. -/
def isShipped : Actor → Bool
  | xkb .. | ibus .. => true
  | scripted _ => false

/-- The keyboards that an actor lists. -/
def listed (x : Actor) : List Keyboard := Offer.keyboards (⟨0, "", .primary⟩, (x.answer .enumerate).1)

/-- What an actor is once it was asked to start. -/
def started (x : Actor) : Actor := (x.answer .start).2.1

theorem answer_harmless (x : Actor) (h : r.isHarmless = true) : (x.answer r).2.1 = x := by
  cases x with
  | xkb host state =>
    cases r with
    | activeKeyboard =>
      have hcurrent := congrArg (·.2.state) (XkbHost.run_current_any host [])
      exact congrArg (xkb · state) hcurrent
    | start | close | activate | deactivate | focus => cases h
    | _ => rfl
  | ibus host state =>
    cases r with
    | activeKeyboard => exact congrArg (ibus · state) (IbusHost.state_active state ⟨host, []⟩)
    | start | close | activate | deactivate | focus => cases h
    | _ => rfl
  | scripted s => rfl

/-- An adaptor in use keeps its settings and its lists. -/
theorem bare_answer (x : Actor) (h : r.isWork = true) : (x.answer r).2.1.bare = x.bare := by
  cases x with
  | xkb host state =>
    cases r with
    | isApplicable | start | close => cases h
    | _ => rfl
  | ibus host state =>
    cases r with
    | isApplicable | start | close => cases h
    | _ => rfl
  | scripted s => rfl

theorem listed_bare (x : Actor) : x.bare.listed = x.listed := by
  cases x <;> rfl

theorem answer_xkb {host : XkbHost} {s t : Xkb.State} {a : r.Answer} {after : Traced XkbHost}
    (run : (Xkb.answer XkbHost.host s r).run ⟨host, []⟩ = ((a, t), after)) :
    (xkb host s).answer r = (a, xkb after.state t, after.log) := by
  have he : (xkb host s).answer r =
      let p := (Xkb.answer XkbHost.host s r).run ⟨host, []⟩
      (p.1.1, xkb p.2.state p.1.2, p.2.log) := rfl
  rw [he, run]

theorem answer_ibus {host : IbusHost} {s t : Ibus.State} {a : r.Answer} {after : Traced IbusHost}
    (run : (Ibus.answer IbusHost.host s r).run ⟨host, []⟩ = ((a, t), after)) :
    (ibus host s).answer r = (a, ibus after.state t, after.log) := by
  have he : (ibus host s).answer r =
      let p := (Ibus.answer IbusHost.host s r).run ⟨host, []⟩
      (p.1.1, ibus p.2.state p.1.2, p.2.log) := rfl
  rw [he, run]

/-- What becomes of an actor that is asked to start depends on its host and its settings only. -/
theorem answer_start_xkb (host : XkbHost) (state : Xkb.State) :
    (((xkb host state).answer .start).1, (xkb host state).started) =
      match host.layouts? with
      | .ok layouts => (.ok (), xkb host { state with layouts, initial := host.inEffect? })
      | .error e => (.error e, xkb host state) := by
  have hrun := XkbHost.run_start host state
  rw [started]
  cases hl : host.layouts? <;> rw [hl] at hrun <;> rw [answer_xkb hrun]

theorem answer_start_ibus (host : IbusHost) (state : Ibus.State) :
    (((ibus host state).answer .start).1, (ibus host state).started) =
      match host.engines? with
      | .ok engines => (.ok (), ibus host { state with
          engines := engines.filter fun e => state.settings.includeXkbEngines || !e.isXkb })
      | .error e => (.error e, ibus host state) := by
  have hrun := IbusHost.run_start host state
  rw [started]
  cases hl : host.engines? <;> rw [hl] at hrun <;> rw [answer_ibus hrun]

/-- An actor that can be started lists what it would list if it were new. -/
theorem bare_started_renewed (h : (x.answer .start).1 = .ok ()) :
    (x.renewed.answer .start).1 = .ok () ∧ x.renewed.started.bare = x.started.bare := by
  cases x with
  | xkb host state =>
    have hold := answer_start_xkb host state
    have hnew := answer_start_xkb host { settings := state.settings }
    cases hl : host.layouts? with
    | error e =>
      rw [hl] at hold
      cases h.symm.trans (Prod.mk.inj hold).1
    | ok layouts =>
      rw [hl] at hold hnew
      obtain ⟨-, hold⟩ := Prod.mk.inj hold
      obtain ⟨hok, hnew⟩ := Prod.mk.inj hnew
      refine ⟨hok, ?_⟩
      rw [hold, renewed, hnew]
  | ibus host state =>
    have hold := answer_start_ibus host state
    have hnew := answer_start_ibus host { settings := state.settings }
    cases hl : host.engines? with
    | error e =>
      rw [hl] at hold
      cases h.symm.trans (Prod.mk.inj hold).1
    | ok engines =>
      rw [hl] at hold hnew
      obtain ⟨-, hold⟩ := Prod.mk.inj hold
      obtain ⟨hok, hnew⟩ := Prod.mk.inj hnew
      refine ⟨hok, ?_⟩
      rw [hold, renewed, hnew]
      rfl
  | scripted s => exact ⟨h, rfl⟩

theorem renewed_renewed (x : Actor) : x.renewed.renewed = x.renewed := by
  cases x <;> rfl

theorem listed_congr (h : x.bare = y.bare) : x.listed = y.listed := by
  rw [← listed_bare, h, listed_bare]

end Actor

namespace World

variable {w v : World} {g h new : History} {a b : Adaptor} {r : Request} {n : Nat}

/-- The actor behind a handle; a handle on nothing has a silent one. -/
def actor (w : World) (n : Nat) : Actor := w.actors[n]?.getD (.scripted {})

theorem ask_fst (w : World) (a : Adaptor) (r : Request) :
    (w.ask a r).1 = ((w.actor a.handle).answer r).1 := by
  rw [ask, actor]
  cases w.actors[a.handle]? <;> rfl

theorem actor_ask_self (w : World) (a : Adaptor) (r : Request) :
    (w.ask a r).2.actor a.handle = ((w.actor a.handle).answer r).2.1 := by
  rw [ask, actor, actor]
  cases hx : w.actors[a.handle]? with
  | none =>
    dsimp only
    rw [hx]
    rfl
  | some x => simp [(Array.getElem?_eq_some_iff.1 hx).1]

theorem actor_ask_other (w : World) (ha : a.handle ≠ n) (r : Request) :
    (w.ask a r).2.actor n = w.actor n := by
  rw [ask, actor, actor]
  cases w.actors[a.handle]? with
  | none => rfl
  | some x => simp [ha]

/-- A request that changes nothing and of which nothing is logged leaves the world as it is. -/
theorem ask_idle (w : World) (harmless : r.isHarmless = true)
    (quiet : ((w.actor a.handle).answer r).2.2 = []) : (w.ask a r).2 = w := by
  obtain ⟨actors, log, journal⟩ := w
  rw [actor] at quiet
  rw [ask]
  cases hx : actors[a.handle]? with
  | none => rfl
  | some x =>
    rw [hx] at quiet
    have hactors : actors.setIfInBounds a.handle (x.answer r).2.1 = actors := by
      rw [x.answer_harmless harmless]
      refine Array.ext_getElem? fun n => ?_
      by_cases hn : a.handle = n
      · subst hn
        obtain ⟨hlt, hget⟩ := Array.getElem?_eq_some_iff.1 hx
        simp [hlt, hget]
      · simp [hn]
    have hlog : log ++ (x.answer r).2.2 = log := by
      rw [show (x.answer r).2.2 = [] from quiet, List.append_nil]
    exact congrArg₂ (fun as lines => (⟨as, lines, journal⟩ : World)) hactors hlog

/-- What all requests to an actor keep is kept throughout a history. -/
theorem actor_replay {β : Type} {f : Actor → β} {P : Request → Prop}
    (keeps : ∀ x r, P r → f (Actor.answer r x).2.1 = f x)
    (asks : Asks (fun a r => a.handle = n → P r) h) :
    f ((w.replay h).actor n) = f (w.actor n) := by
  induction h generalizing w with
  | nil => rfl
  | cons e h ih =>
    rw [← List.singleton_append, asks_append] at asks
    rw [replay_cons, ih asks.2]
    cases e with
    | asked a r answer =>
      by_cases ha : a.handle = n
      · subst ha
        change f ((w.ask a r).2.actor _) = _
        rw [actor_ask_self, keeps _ _ (asks.1 a r answer (List.mem_singleton.2 rfl) rfl)]
      · change f ((w.ask a r).2.actor _) = _
        rw [actor_ask_other w ha]
    | told | reported => rfl

theorem actor_replay_harmless (asks : Asks (fun a r => a.handle = n → r.isHarmless = true) h) :
    (w.replay h).actor n = w.actor n :=
  actor_replay (f := id) (fun x _ hr => x.answer_harmless hr) asks

theorem actor_replay_other (asks : Asks (fun a _ => a.handle ≠ n) h) :
    (w.replay h).actor n = w.actor n :=
  actor_replay_harmless (asks.mono fun _ _ hne he => (hne he).elim)

theorem bare_replay (asks : Asks (fun a r => a.handle = n → r.isWork = true) h) :
    ((w.replay h).actor n).bare = (w.actor n).bare :=
  actor_replay (fun x _ hr => x.bare_answer hr) asks

/-- The world in which every adaptor is a new one, with its settings and over its host. -/
def renewed (w : World) : World := { w with actors := w.actors.map Actor.renewed }

theorem actor_renewed (w : World) (n : Nat) : w.renewed.actor n = (w.actor n).renewed := by
  rw [actor, actor, renewed, Array.getElem?_map]
  cases w.actors[n]? <;> rfl

/-- The keyboards that an adaptor lists. -/
def offers (w : World) (a : Adaptor) : List Keyboard := (w.actor a.handle).listed

/-- The keyboards that an adaptor would list if it were made and started now. -/
def promises (w : World) (a : Adaptor) : List Keyboard := (w.actor a.handle).renewed.started.listed

end World

end Simulation

end Keyboards
