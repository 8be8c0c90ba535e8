import Keyboards.Proofs.World.Lives
import Keyboards.Proofs.World.Switches

/-! A switch to the other category that fails leaves both subsystems as they were. -/

namespace Keyboards.Session

open History Simulation

variable {o : Oracle} {settings : SessionSettings} {p : Past} {s t : Session} {i j : Installed}
  {w v : World} {new : History} {k r : Keyboard} {c : Category} {a b : Adaptor}
  {cmd : Command} {reply : Reply}

theorem Warned.quiet {id message : String} (h : Warned s id message new t) :
    t.installed = s.installed ∧ Asks (fun _ _ => False) new := by
  cases h with
  | silent => exact ⟨rfl, fun _ _ _ he => (List.not_mem_nil he).elim⟩
  | told =>
    refine ⟨rfl, fun a r answer he => ?_⟩
    simp at he

/-- What a request to activate an available keyboard comes to, once its adaptor was told. Before,
the adaptor in use is told to let go; if it has to, it gets its keyboard back. -/
inductive Switching (s : Session) (i : Installed) (r : Keyboard) (c : Category) (b : Adaptor) :
    Activation → History → Session → Prop where
  | activated : Switching s i r c b .activated
      (letting (leaving? i c) i.active ++ [.asked b (.activate r) (.ok ())]) (s.withActive i r)
  | failed {t : Session} {reports : History} (e : AdaptorError) (answer : Except AdaptorError Unit)
      (installed : t.installed = some i) (quiet : Asks (fun _ _ => False) reports) :
      Switching s i r c b .failed (letting (leaving? i c) i.active ++
        ([.asked b (.activate r) (.error e)] ++
          (restoring (leaving? i c) i.active answer ++ reports))) t

theorem leads_switching (live : s.installed = some i) (nonzero : k.isZero = false)
    (usable : usable? i k = some (r, c)) (serves : i.serving c = some b) :
    Leads (s.perform o.environment (.activate k)) fun result new =>
      ∃ outcome, result.1 = .activation outcome ∧ Switching s i r c b outcome new result.2 := by
  intro h
  obtain ⟨x, t, new, run, hx⟩ := run_activates (o := o) live k h
  refine ⟨_, new, run, x, rfl, ?_⟩
  obtain ⟨-, rfl, rfl, rfl⟩ | ⟨e, back, reports, -, rfl, rfl, warned⟩ :=
    hx.of_serves nonzero usable serves
  · exact .activated
  · exact .failed e back (warned.quiet.1.trans live) warned.quiet.2

/-- The same in a world. -/
theorem switching_of_run (sound : i.Sound) (live : s.installed = some i)
    (usable : usable? i k = some (r, c)) (serves : i.serving c = some b)
    (run : (s.perform World.environment (.activate k)).run w = ((reply, t), v)) :
    ∃ new outcome, w.Truthful new ∧ v = w.replay new ∧ reply = .activation outcome ∧
      Switching s i r c b outcome new t := by
  have nonzero : k.isZero = false := by
    by_contra hz
    have hfound := (usable?_eq_some.1 usable).1
    simp only [Keyboard.isZero, Bool.not_eq_false, Bool.and_eq_true, decide_eq_true_eq] at hz
    rw [hz.1, hz.2] at hfound
    cases hfound.symm.trans (Catalog.get?_zero sound.indexed)
  obtain ⟨new, truthful, hv, outcome, hreply, switching⟩ :=
    (World.follows_perform w s (.activate k)).leads (leads_switching live nonzero usable serves) run
  exact ⟨new, outcome, truthful, hv, hreply, switching⟩

/-- The keyboard in use belongs to an adaptor in place that has had it in its list from the start. -/
structure Held (u : World) (i : Installed) (a : Adaptor) : Prop where
  nonzero : i.active.isZero = false
  serves : i.active.category.bind i.serving = some a
  lists : (u.actor a.handle).started.Lists i.active.layout

/-- A keyboard is held that was just activated. -/
theorem held_of_switched (settled : Settled p w i) (live : s.installed = some i)
    (switched : Switched s new t) (truthful : w.Truthful new) (path : Steps s new t)
    (after : t.installed = some j) : ∃ a, Held p.origin j a := by
  obtain ⟨i', k, r, c, a, asked, live', usable, serves, -, rfl, rfl⟩ := switched
  cases live.symm.trans live'
  cases after
  obtain ⟨found, -, category⟩ := usable?_eq_some.1 usable
  refine ⟨a, Catalog.isZero_of_get? settled.sound.indexed found, ?_, ?_⟩
  · rw [category]
    exact serves
  · have hasks := path.asks live
    rw [← List.append_assoc] at truthful hasks
    obtain ⟨-, hanswer, -⟩ := World.truthful_append.1 truthful
    change ((w.replay _).ask a (.activate r)).1 = .ok () at hanswer
    rw [World.ask_fst] at hanswer
    have hbare := World.bare_replay (w := w) (n := a.handle)
      ((asks_append.1 hasks).1.mono fun _ _ hw _ => hw.2)
    have hstocked := settled.stocked a (Installed.serving_mem serves)
    exact (Actor.lists_congr (hbare.trans hstocked.bare)).1 (Actor.lists_of_activate hanswer)

/-- A keyboard in use that keeps its key is kept as it is, with its adaptor. -/
theorem Performed.kept (hp : Performed s cmd reply new t) (settled : Settled p w i)
    (truthful : w.Truthful new) (live : s.installed = some i) (after : t.installed = some j)
    (nonzero : i.active.isZero = false) (same : i.active.key = j.active.key) :
    cmd.replaced reply = false ∧ j.active = i.active ∧ j.serving = i.serving := by
  have hzero : j.active ≠ .zero := by
    intro hj
    rw [hj] at same
    obtain ⟨hlayout, hlocale⟩ := Prod.mk.inj same
    rw [Keyboard.isZero, hlayout, hlocale] at nonzero
    cases nonzero
  cases hp with
  | steps plain path =>
    obtain ⟨l, hl, within⟩ := path.frame live
    cases after.symm.trans hl
    refine ⟨Command.replaced_of_isPlain plain, ?_, rfl⟩
    have hown : i.catalog.get? i.active.layout i.active.locale = some i.active := by
      rcases settled.sound.active with hi | hi
      · rw [hi] at nonzero
        cases nonzero
      · exact hi
    have hnow := (within.sound settled.sound).active.resolve_left hzero
    obtain ⟨hlayout, hlocale⟩ := Prod.mk.inj same
    rw [hlayout, hlocale] at hown
    exact Option.some.inj (hnow.symm.trans hown)
  | refusal =>
    cases live.symm.trans after
    exact ⟨rfl, rfl, rfl⟩
  | replacement live' installing =>
    cases after
    cases installing
    exact (hzero rfl).elim
  | refresh live' listed =>
    cases live.symm.trans live'
    rw [settled.catalog_refreshed listed truthful, refreshed_same live settled.sound] at after
    cases live.symm.trans after
    exact ⟨rfl, rfl, rfl⟩
  | shutDown => cases after

theorem Lives.held (life : Lives settings p s w) (owned : (p.supplied.map (·.handle)).Nodup)
    (chosen : p.chosen = true) (live : s.installed = some i) : ∃ a, Held p.origin i a := by
  induction life generalizing i with
  | opened run => cases chosen
  | @performed p cmd reply s t v w before run ih =>
    have hbefore := (Past.owned_of_next owned).1
    cases hs : s.installed with
    | none =>
      obtain ⟨rfl, rfl, -⟩ := disposed_of_run hs run
      cases hs.symm.trans live
    | some k =>
      obtain ⟨new, truthful, rfl, hp⟩ := performed_of_run hs run
      have settled := before.settled hbefore hs
      by_cases hr : reply.isActivated = true
      · cases hp with
        | steps plain path switched =>
          rw [Past.origin_next (Command.replaced_of_isPlain plain)]
          exact held_of_switched settled hs (switched hr) truthful path live
        | refusal | replacement | refresh | shutDown => cases hr
      · obtain ⟨hchosen, hkey⟩ : p.chosen = true ∧ s.inUse? = t.inUse? := by
          simpa [Past.next, hr] using chosen
        rw [inUse?, inUse?, hs, live] at hkey
        obtain ⟨a, held⟩ := ih hbefore hchosen hs
        obtain ⟨hreplaced, hactive, hserving⟩ :=
          hp.kept settled truthful hs live held.nonzero (Option.some.inj hkey)
        rw [Past.origin_next hreplaced]
        exact ⟨a, hactive ▸ held.nonzero, by rw [hactive, hserving, held.serves],
          hactive ▸ held.lists⟩
  | changed before n x ih => exact ih owned chosen live

theorem Settled.handles_ne {d : Category} (h : Settled p w i)
    (owned : (p.supplied.map (·.handle)).Nodup) (ha : i.serving d = some a)
    (hb : i.serving c = some b) (hne : d ≠ c) : a.handle ≠ b.handle := by
  intro he
  obtain rfl : a = b := List.inj_on_of_nodup_map owned
    (h.supplied a (Installed.serving_mem ha)) (h.supplied b (Installed.serving_mem hb)) he
  have hcategory := h.sound.category_of_serving ha
  rw [h.sound.category_of_serving hb] at hcategory
  exact hne hcategory.symm

/-- A switch to a keyboard of the other category that fails, while the host of the keyboard in use
refuses nothing, leaves that keyboard in use: its host reports it again, and the other adaptor and
its host are as they were. -/
theorem failed_switch_restores (life : Lives settings p s w)
    (owned : (p.supplied.map (·.handle)).Nodup) (chosen : p.chosen = true)
    (live : s.installed = some i) (serves : i.active.category.bind i.serving = some a)
    (willing : (w.actor a.handle).Willing i.active.layout) (usable : usable? i k = some (r, c))
    (other : i.active.category ≠ some c) (served : i.serving c = some b)
    (run : (s.perform World.environment (.activate k)).run w = ((.activation .failed, t), v)) :
    t.installed = some i ∧ (v.actor a.handle).reported? = some i.active.layout ∧
    v.actor b.handle = w.actor b.handle := by
  have settled := life.settled owned live
  obtain ⟨a', held⟩ := life.held owned chosen live
  obtain rfl : a = a' := Option.some.inj (serves.symm.trans held.serves)
  obtain ⟨new, outcome, truthful, rfl, houtcome, switching⟩ :=
    switching_of_run settled.sound live usable served run
  cases houtcome
  obtain _ | @⟨_, reports, e, answer, installed, quiet⟩ := switching
  refine ⟨installed, ?_⟩
  have hleaving : leaving? i c = some a := leaving?_eq_some.2 ⟨held.nonzero, other, serves⟩
  have hne : a.handle ≠ b.handle := by
    obtain ⟨d, hd, hserves⟩ := Option.bind_eq_some_iff.1 serves
    exact settled.handles_ne owned hserves served fun hdc => other (hdc ▸ hd)
  rw [hleaving] at truthful ⊢
  obtain ⟨-, hrefuses, -⟩ := truthful
  obtain ⟨hback, hother⟩ := World.actors_detour w hne hrefuses
  let back := (((w.ask a (.deactivate i.active)).2.ask b (.activate r)).2.ask a
    (.activate i.active)).2
  -- The reports at the end ask no actor anything.
  have hend : ∀ n, (w.replay (letting (some a) i.active ++ ([.asked b (.activate r) (.error e)] ++
      (restoring (some a) i.active answer ++ reports)))).actor n = back.actor n := fun n =>
    World.actor_replay_other (w := back) (quiet.mono fun _ _ hf => hf.elim)
  rw [hend, hend]
  refine ⟨?_, hother⟩
  rw [hback]
  have stocked := settled.stocked a (mem_of_bind_serving serves)
  have hbare : ((w.actor a.handle).answer (.deactivate i.active)).2.1.bare =
      (p.origin.actor a.handle).started.bare := by
    rw [Actor.bare_answer _ rfl, stocked.bare]
  exact Actor.reported?_activate (Actor.willing_deactivate willing)
    ((Actor.lists_congr hbare).2 held.lists)
    ((Actor.wordNames_congr hbare).2 (Actor.wordNames_started stocked.started))

namespace Sample

/-- A host that lists an engine but does not switch to it. -/
def stubborn : IbusHost where
  listing := "language: Chinese\n  pinyin - Pinyin\n"
  setError := some (.unavailable "ibus")

def pair : World := { actors := #[.xkb layoutHost {}, .ibus stubborn {}] }

def engineSystem : Adaptor := ⟨1, "ibus", .secondary⟩

def american : Keyboard :=
  ⟨"us", "en-US", "English", some .primary, true, some "xkb", some ⟨"en-US", "English", some 1033⟩⟩

def pinyinEngine : Keyboard := ⟨"pinyin", "zh-CN", "Pinyin", some .secondary, true, some "ibus", none⟩

/-- The two actors once they were started. -/
def layoutActor : Actor := .xkb layoutHost ⟨{}, [⟨"us", none, "English"⟩], some "us"⟩

def engineActor : Actor := .ibus stubborn ⟨{}, [⟨"pinyin", "Pinyin", "Chinese"⟩], []⟩

theorem layoutActor_accepts : (layoutActor.answer (.activate american)).1 = .ok () ∧
    (layoutActor.answer (.activate american)).2.1 = layoutActor := by
  decide +kernel

theorem engineActor_refuses :
    (engineActor.answer (.activate pinyinEngine)).1 = .error (.unavailable "ibus") := by
  decide +kernel

/-- Both adaptors in place, with the catalog that they fill. -/
structure InPlace (i : Installed) (w : World) : Prop where
  primary : i.primary = layoutSystem
  secondary : i.secondary = some engineSystem
  entries : i.catalog.toList = [american, pinyinEngine]
  sound : i.Sound
  layoutActor : w.actor layoutSystem.handle = layoutActor
  engineActor : w.actor engineSystem.handle = engineActor

theorem opened_pair : ∃ (s : Session) (i : Installed) (w : World),
    Lives {} ⟨[layoutSystem, engineSystem], pair, false⟩ s w ∧ s.installed = some i ∧
    i.active = .zero ∧ InPlace i w := by
  rcases run : (start World.environment {} [layoutSystem, engineSystem]).run pair with ⟨result, w⟩
  have hresult := congrArg Prod.fst run
  have hworld := congrArg Prod.snd run
  dsimp only at hresult hworld
  have hplaces : ((result.toOption.bind (·.installed)).map fun i => (i.primary, i.secondary)) =
      some (layoutSystem, some engineSystem) := by
    rw [← hresult]
    decide +kernel
  have hactors : w.actor 0 = layoutActor ∧ w.actor 1 = engineActor := by
    rw [← hworld]
    decide +kernel
  cases result with
  | error e => cases hplaces
  | ok s =>
    have life : Lives {} ⟨[layoutSystem, engineSystem], pair, false⟩ s w := .opened run
    obtain ⟨new, -, -, opening⟩ := opening_of_run run
    cases opening with
    | @opened i _ installing =>
      obtain ⟨hprimary, hsecondary⟩ := Prod.mk.inj (Option.some.inj hplaces)
      have settled := life.settled (by decide) rfl
      refine ⟨_, i, w, life, rfl, ?_, hprimary, hsecondary, ?_, settled.sound, hactors.1, hactors.2⟩
      · cases installing
        rfl
      · have hadaptors : i.adaptors = [layoutSystem, engineSystem] := by
          rw [Installed.adaptors, hprimary, hsecondary]
          rfl
        rw [settled.catalog, hadaptors, Catalog.toList_ofList]
        decide +kernel

variable {s : Session} {i : Installed} {w : World} {k : Keyboard} {c : Category}

theorem InPlace.usable (h : InPlace i w) (hk : k ∈ [american, pinyinEngine])
    (category : k.category = some c) : usable? i k = some (k, c) := by
  refine usable?_eq_some.2 ⟨Catalog.get?_of_mem h.sound.indexed (h.entries ▸ hk), ?_, category⟩
  rcases List.mem_pair.1 hk with rfl | rfl <;> rfl

/-- The session once its layout was activated. -/
theorem activated_pair : ∃ (p : Past) (s : Session) (i : Installed) (w : World),
    Lives {} p s w ∧ p.supplied = [layoutSystem, engineSystem] ∧ p.chosen = true ∧
    s.installed = some i ∧ i.active = american ∧ InPlace i w := by
  obtain ⟨s, i, w, life, live, idle, inPlace⟩ := opened_pair
  have serves : i.serving .primary = some layoutSystem := congrArg some inPlace.primary
  have hleaving : leaving? i .primary = none := by
    rw [leaving?, idle]
    rfl
  rcases run : (s.perform World.environment (.activate american)).run w with ⟨⟨reply, t⟩, v⟩
  obtain ⟨new, outcome, truthful, rfl, rfl, switching⟩ :=
    switching_of_run inPlace.sound live (inPlace.usable (.head _) rfl) serves run
  have hask : (w.ask layoutSystem (.activate american)).1 = .ok () := by
    rw [World.ask_fst, inPlace.layoutActor]
    exact layoutActor_accepts.1
  cases switching with
  | activated =>
    rw [hleaving] at run
    have after := life.performed run
    have owned : ([layoutSystem, engineSystem].map (·.handle)).Nodup := by decide
    have settled := after.settled owned rfl
    refine ⟨_, _, _, _, after, rfl, rfl, rfl, rfl, inPlace.primary, inPlace.secondary,
      inPlace.entries, settled.sound, ?_, ?_⟩
    · change (w.ask layoutSystem (.activate american)).2.actor layoutSystem.handle = _
      rw [World.actor_ask_self, inPlace.layoutActor]
      exact layoutActor_accepts.2
    · change (w.ask layoutSystem (.activate american)).2.actor engineSystem.handle = _
      rw [World.actor_ask_other w (by decide), inPlace.engineActor]
  | failed e =>
    rw [hleaving] at truthful
    cases hask.symm.trans truthful.1

end Sample

/-- The engine does not get into use, and the layout stays. -/
theorem failed_switch_restores_layout : ∃ (p : Past) (s t : Session) (i : Installed) (w v : World),
    Lives {} p s w ∧ p.chosen = true ∧ s.installed = some i ∧ i.active = Sample.american ∧
    (s.perform World.environment (.activate Sample.pinyinEngine)).run w =
      ((.activation .failed, t), v) ∧
    t.installed = some i ∧ (v.actor Sample.layoutSystem.handle).reported? = some "us" ∧
    v.actor Sample.engineSystem.handle = w.actor Sample.engineSystem.handle := by
  obtain ⟨p, s, i, w, life, hsupplied, chosen, live, hactive, inPlace⟩ := Sample.activated_pair
  have owned : (p.supplied.map (·.handle)).Nodup := by
    rw [hsupplied]
    decide
  have serves : i.active.category.bind i.serving = some Sample.layoutSystem := by
    rw [hactive]
    exact congrArg some inPlace.primary
  have willing : (w.actor Sample.layoutSystem.handle).Willing i.active.layout := by
    rw [inPlace.layoutActor, hactive]
    exact ⟨⟨rfl, rfl, rfl⟩, "us", none, rfl, by decide, by decide, nofun⟩
  have usable := inPlace.usable (k := Sample.pinyinEngine) (.tail _ (.head _)) rfl
  have other : i.active.category ≠ some .secondary := by
    rw [hactive]
    decide
  have served : i.serving .secondary = some Sample.engineSystem := inPlace.secondary
  rcases run : (s.perform World.environment (.activate Sample.pinyinEngine)).run w with
    ⟨⟨reply, t⟩, v⟩
  obtain ⟨new, outcome, truthful, -, rfl, switching⟩ :=
    switching_of_run inPlace.sound live usable served run
  cases switching with
  | activated =>
    have hleaving : leaving? i .secondary = some Sample.layoutSystem :=
      leaving?_eq_some.2 ⟨by rw [hactive]; rfl, other, serves⟩
    rw [hleaving] at truthful
    obtain ⟨-, hanswer, -⟩ := truthful
    change ((w.ask Sample.layoutSystem (.deactivate i.active)).2.ask Sample.engineSystem
      (.activate Sample.pinyinEngine)).1 = .ok () at hanswer
    rw [World.ask_fst, World.actor_ask_other w (by decide), inPlace.engineActor,
      Sample.engineActor_refuses] at hanswer
    cases hanswer
  | failed =>
    have hrestored := failed_switch_restores life owned chosen live serves willing usable other
      served run
    rw [hactive] at hrestored
    exact ⟨p, s, t, i, w, v, life, chosen, live, hactive, run, hrestored⟩

end Keyboards.Session
