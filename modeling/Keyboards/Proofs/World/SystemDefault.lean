import Keyboards.Proofs.World.Refreshing
import Keyboards.Proofs.World.Restoring

/-! The layout that was in effect at the start is the system default, which can be activated at any
time as long as the rules list names it. -/

namespace Keyboards

open History Simulation Text

namespace Xkb.State

variable {t : State} {l : Layout} {name : String}

theorem canonicalKey_keyboardOf (t : State) (l : Layout) :
    (t.keyboardOf l).canonicalKey = (t.keyboardOf l).key :=
  Prod.ext (nfc_nfc _) (nfc_nfc _)

theorem isZero_keyboardOf (t : State) (h : l.WellFormed) : (t.keyboardOf l).isZero = false := by
  have hname : l.name ≠ "" := by
    intro he
    obtain ⟨c, hc⟩ : ∃ c, c ∈ l.code.toList := by
      apply List.exists_mem_of_ne_nil
      intro hnil
      exact h.code.1 (String.toList_eq_nil_iff.1 hnil)
    have hin := mem_joinName_code l.variant hc
    change c ∈ l.name.toList at hin
    rw [he] at hin
    cases hin
  have hlayout : (t.keyboardOf l).layout ≠ "" := by
    intro he
    exact hname (nfc_eq_empty.1 he)
  simp [Keyboard.isZero, hlayout]

/-- Under the key of a layout in the list, what is filled from the list first holds one of its
keyboards. -/
theorem get?_ofList_layouts (hl : l ∈ t.layouts) (words : l.WellFormed) (ks : List Keyboard) :
    ∃ l' ∈ t.layouts, (t.keyboardOf l').key = (t.keyboardOf l).key ∧
      (Catalog.ofList (t.layouts.map t.keyboardOf ++ ks)).get? (t.keyboardOf l).layout
        (t.keyboardOf l).locale = some (t.keyboardOf l') := by
  obtain ⟨r, hr, hkey, hget⟩ := Catalog.get?_ofList_append
    (List.mem_map_of_mem (f := t.keyboardOf) hl) (t.isZero_keyboardOf words) ks
  obtain ⟨l', hl', rfl⟩ := List.mem_map.1 hr
  rw [t.canonicalKey_keyboardOf, t.canonicalKey_keyboardOf] at hkey
  exact ⟨l', hl', hkey, hget⟩

/-- The default is one of the keyboards on offer if the list names it. -/
theorem keyboardFor_of_listed (listed : ∃ l ∈ t.layouts, l.name = name) :
    ∃ l ∈ t.layouts, l.name = name ∧ t.keyboardFor name = t.keyboardOf l := by
  rw [keyboardFor]
  cases found : t.layouts.find? (·.name = name) with
  | none =>
    obtain ⟨l, hl, hname⟩ := listed
    have hother := List.find?_eq_none.1 found l hl
    simp [hname] at hother
  | some l =>
    exact ⟨l, List.mem_of_find?_eq_some found, by simpa using List.find?_some found, rfl⟩

end Xkb.State

namespace Simulation.Actor

variable {x : Actor} {k : Keyboard} {state : Xkb.State}

/-- The host refuses nothing, whatever it reports. -/
def Accepting : Actor → Prop
  | xkb host _ => host.setError = none
  | ibus host _ => host.setError = none
  | scripted script => script.failActivate = []

/-- An adaptor whose host refuses nothing accepts what it has in its list. -/
theorem answer_activate_iff (accepting : x.Accepting) :
    (x.answer (.activate k)).1 = .ok () ↔ x.Lists k.layout := by
  constructor
  · exact lists_of_activate
  · intro listed
    cases x with
    | xkb host state =>
      have obeys : XkbHost.host.Obeys ⟨host, []⟩ := by
        intro code variant
        obtain ⟨present, rules, rulesError, query, queryError, layout, varied, setError⟩ := host
        cases accepting
        cases queryError <;> rfl
      exact congrArg Prod.fst (Xkb.activate_listed obeys listed)
    | ibus host state =>
      have obeys : IbusHost.host.Obeys ⟨host, []⟩ := by
        intro name
        obtain ⟨present, listing, listError, engine, currentError, setError⟩ := host
        cases accepting
        cases currentError <;> rfl
      exact congrArg Prod.fst (Ibus.activate_listed obeys listed)
    | scripted script =>
      change Script.orFail (script.failActivate.lookup k.layout) = .ok ()
      rw [show script.failActivate = [] from accepting]
      rfl

theorem eq_xkb_of_bare (h : x.bare = .xkb {} state) : ∃ host, x = .xkb host state := by
  cases x with
  | xkb host own =>
    cases h
    exact ⟨host, rfl⟩
  | ibus | scripted => cases h

end Simulation.Actor

namespace Session

variable {o : Oracle} {settings : SessionSettings} {p : Past} {s t : Session} {i : Installed}
  {w v : World} {k r : Keyboard} {c : Category} {a : Adaptor} {host₀ host : XkbHost}
  {state₀ state : Xkb.State} {name : String} {l : Xkb.Layout}

/-- A request for a keyboard can put one into use: the entry under its key is available, and the
adaptor that serves the entry has it in its list. -/
def Attainable (w : World) (i : Installed) (k r : Keyboard) : Prop :=
  ∃ c a, usable? i k = some (r, c) ∧ i.serving c = some a ∧ (w.actor a.handle).Lists r.layout

theorem Attainable.unique {k r r' : Keyboard} (h : Attainable w i k r) (h' : Attainable w i k r') :
    r = r' := by
  obtain ⟨c, a, usable, -⟩ := h
  obtain ⟨c', a', usable', -⟩ := h'
  cases usable.symm.trans usable'
  rfl

/-- Whoever has to let go first is another adaptor than the one that is told to switch. -/
theorem asks_letting_apart (settled : Settled p w i) (owned : (p.supplied.map (·.handle)).Nodup)
    (serves : i.serving c = some a) :
    Asks (fun b _ => b.handle ≠ a.handle) (letting (leaving? i c) i.active) := by
  apply asks_letting
  intro b hb
  obtain ⟨-, other, hserves⟩ := leaving?_eq_some.1 hb
  obtain ⟨d, hd, hserving⟩ := Option.bind_eq_some_iff.1 hserves
  have hne : d ≠ c := by
    rintro rfl
    exact other hd
  exact settled.handles_ne owned hserving serves hne

/-- Without an available entry that an adaptor serves nothing is put into use. -/
theorem leads_activate_unserved (live : s.installed = some i)
    (unserved : ∀ r c, usable? i k = some (r, c) → i.serving c = none) :
    Leads (s.perform o.environment (.activate k)) fun result _ =>
      (∃ a, result.1 = .activation a ∧ a ≠ .activated) ∧ result.2.installed = some i := by
  intro h
  obtain ⟨x, t, new, run, hx⟩ := run_activates (o := o) live k h
  refine ⟨_, new, run, ?_⟩
  cases hx with
  | zero => exact ⟨⟨.noKeyboard, rfl, by decide⟩, live⟩
  | absent _ _ warned | unserved _ _ _ warned =>
    exact ⟨⟨.failed, rfl, by decide⟩, warned.quiet.1.trans live⟩
  | activated _ usable serves | refused _ usable serves =>
    cases (unserved _ _ usable).symm.trans serves

/-- If no host refuses anything, a request puts a keyboard into use exactly if there is one to be
had by it; otherwise the keyboard in use stays. -/
theorem activate_attains (settled : Settled p w i) (owned : (p.supplied.map (·.handle)).Nodup)
    (live : s.installed = some i) (accepting : ∀ a ∈ i.adaptors, (w.actor a.handle).Accepting)
    (k : Keyboard) :
    ∃ x t v, (s.perform World.environment (.activate k)).run w = ((.activation x, t), v) ∧
      ((∃ r, Attainable w i k r ∧ x = .activated ∧ t = s.withActive i r) ∨
        ((¬∃ r, Attainable w i k r) ∧ x ≠ .activated ∧ t.installed = some i)) := by
  rcases run : (s.perform World.environment (.activate k)).run w with ⟨⟨reply, t⟩, v⟩
  by_cases served : ∃ r c a, usable? i k = some (r, c) ∧ i.serving c = some a
  · obtain ⟨r, c, a, usable, serves⟩ := served
    obtain ⟨new, x, truthful, -, rfl, switching⟩ :=
      switching_of_run settled.sound live usable serves run
    refine ⟨x, t, v, rfl, ?_⟩
    have haccepts := Actor.answer_activate_iff (k := r) (accepting a (Installed.serving_mem serves))
    have hturn : (w.replay (letting (leaving? i c) i.active)).actor a.handle = w.actor a.handle :=
      World.actor_replay_other (asks_letting_apart settled owned serves)
    obtain _ | ⟨e, answer, installed, -⟩ := switching
    · obtain ⟨-, hanswer, -⟩ := World.truthful_append.1 truthful
      change ((w.replay _).ask a (.activate r)).1 = .ok () at hanswer
      rw [World.ask_fst, hturn, haccepts] at hanswer
      exact .inl ⟨r, ⟨c, a, usable, serves, hanswer⟩, rfl, rfl⟩
    · obtain ⟨-, hanswer, -⟩ := World.truthful_append.1 truthful
      change ((w.replay _).ask a (.activate r)).1 = .error e at hanswer
      rw [World.ask_fst, hturn] at hanswer
      refine .inr ⟨?_, by decide, installed⟩
      rintro ⟨r', c', a', usable', serves', listed⟩
      cases usable.symm.trans usable'
      cases serves.symm.trans serves'
      cases (haccepts.2 listed).symm.trans hanswer
  · have unserved : ∀ r c, usable? i k = some (r, c) → i.serving c = none := by
      intro r c usable
      by_contra hsome
      obtain ⟨a, serves⟩ := Option.ne_none_iff_exists'.1 hsome
      exact served ⟨r, c, a, usable, serves⟩
    obtain ⟨new, -, -, ⟨x, rfl, hne⟩, installed⟩ :=
      (World.follows_perform w s (.activate k)).leads (leads_activate_unserved live unserved) run
    refine ⟨x, t, v, rfl, .inr ⟨?_, hne, installed⟩⟩
    rintro ⟨r, c, a, usable, serves, -⟩
    exact served ⟨r, c, a, usable, serves⟩

/-- The primary adaptor keeps the rules list and the layout in effect that it found at its start,
whatever becomes of its host. -/
theorem Settled.primary_xkb (h : Settled p w i)
    (actor : p.origin.actor i.primary.handle = .xkb host₀ state₀) :
    ∃ layouts host, host₀.layouts? = .ok layouts ∧ w.actor i.primary.handle =
      .xkb host { state₀ with layouts, initial := host₀.inEffect? } := by
  obtain ⟨started, bare⟩ := h.stocked i.primary (primary_mem i)
  have hstart := Actor.answer_start_xkb host₀ state₀
  rw [actor] at started bare
  cases hl : host₀.layouts? with
  | error e =>
    rw [hl] at hstart
    cases started.symm.trans (Prod.mk.inj hstart).1
  | ok layouts =>
    rw [hl] at hstart
    rw [(Prod.mk.inj hstart).2] at bare
    obtain ⟨host, hx⟩ := Actor.eq_xkb_of_bare bare
    exact ⟨layouts, host, rfl, hx⟩

/-- Under the key of a layout in its list the catalog has a keyboard of the primary adaptor. -/
theorem Settled.get?_layout (h : Settled p w i)
    (actor : w.actor i.primary.handle = .xkb host state) (hl : l ∈ state.layouts)
    (words : l.WellFormed) : ∃ l' ∈ state.layouts,
      (state.keyboardOf l').key = (state.keyboardOf l).key ∧
      i.catalog.get? (state.keyboardOf l).layout (state.keyboardOf l).locale =
        some (state.keyboardOf l') := by
  have hoffers : p.origin.promises i.primary = state.layouts.map state.keyboardOf := by
    rw [← (h.stocked i.primary (primary_mem i)).offers_eq, World.offers, actor]
    rfl
  have hcatalog : i.catalog = Catalog.ofList (state.layouts.map state.keyboardOf ++
      i.secondary.toList.flatMap p.origin.promises) := by
    rw [h.catalog, Installed.adaptors, List.flatMap_cons, hoffers]
  obtain ⟨l', hl', hkey, hget⟩ := state.get?_ofList_layouts hl words
    (i.secondary.toList.flatMap p.origin.promises)
  exact ⟨l', hl', hkey, by rw [hcatalog, hget]⟩

/-- To activate the default is to activate the keyboard that the catalog has for it, or else what
the adaptor says of it. -/
theorem run_activateDefault (live : s.installed = some i)
    (actor : w.actor i.primary.handle = .xkb host state) (initial : state.initial = some name) :
    (s.perform World.environment .activateDefault).run w =
      (s.perform World.environment (.activate ((i.catalog.get? (state.keyboardFor name).layout
        (state.keyboardFor name).locale).getD (state.keyboardFor name)))).run w := by
  have hanswer : (w.ask i.primary .defaultKeyboard).1 = some (state.keyboardFor name) := by
    rw [World.ask_fst, actor]
    change state.initial.map state.keyboardFor = _
    rw [initial]
    rfl
  have hsame : (w.ask i.primary .defaultKeyboard).2 = w := by
    apply w.ask_idle rfl
    rw [actor]
    rfl
  have hask : (World.environment.ask i.primary .defaultKeyboard).run w =
      (some (state.keyboardFor name), w) := Prod.ext hanswer hsame
  have hdefault : (s.defaultKeyboard World.environment).run w =
      (.ok ((i.catalog.get? (state.keyboardFor name).layout
        (state.keyboardFor name).locale).getD (state.keyboardFor name)), w) := by
    rw [defaultKeyboard, live]
    dsimp only
    rw [defaultOf, map_eq_pure_bind, bind_assoc, run_bind_of hask]
    rfl
  rw [perform, perform, activateDefault, bind_assoc, run_bind_of hdefault]
  rfl

/-- What is to be had by the catalog's keyboard for a key is to be had by that key. -/
theorem attainable_registered (indexed : i.catalog.Indexed) :
    Attainable w i ((i.catalog.get? k.layout k.locale).getD k) r ↔ Attainable w i k r := by
  cases found : i.catalog.get? k.layout k.locale with
  | none => rfl
  | some own =>
    have hsame : usable? i own = usable? i k := by
      rw [usable?, usable?, found, Catalog.get?_own indexed found]
    rw [Attainable, Attainable, Option.getD_some, hsame]

/-- The default is to be had if the rules list names it, also in its normal form. -/
theorem attainable_default (settled : Settled p w i)
    (actor : w.actor i.primary.handle = .xkb host state) (named : ∃ l ∈ state.layouts, l.name = name)
    (normal : ∃ l ∈ state.layouts, l.name = nfc name) :
    ∃ r, Attainable w i (state.keyboardFor name) r := by
  obtain ⟨l, hl, rfl, hdefault⟩ := state.keyboardFor_of_listed named
  have hbare := (settled.stocked i.primary (primary_mem i)).bare
  have words : ∀ l ∈ state.layouts, l.WellFormed := by
    have hwords := (Actor.wordNames_congr hbare).2
      (Actor.wordNames_started (settled.stocked i.primary (primary_mem i)).started)
    rw [actor] at hwords
    exact hwords
  obtain ⟨l', hl', hkey, hget⟩ := settled.get?_layout actor hl (words l hl)
  have hlayout : (state.keyboardOf l').layout = nfc l.name := (Prod.mk.inj hkey).1
  refine ⟨state.keyboardOf l', .primary, i.primary, ?_, rfl, ?_⟩
  · rw [hdefault]
    exact usable?_eq_some.2 ⟨hget, rfl, rfl⟩
  · rw [hlayout, actor]
    exact normal

/-- After every life, if no host refuses anything, a request for the default puts the keyboard into
use that is to be had under its key. There is one if the rules list that the adaptor read at its
start names the layout that was in effect then, also in its normal form. Without an available
keyboard under that key nothing is put into use. -/
theorem default_activated (life : Lives settings p s w)
    (owned : (p.supplied.map (·.handle)).Nodup) (live : s.installed = some i)
    (actor : p.origin.actor i.primary.handle = .xkb host₀ state₀)
    (effective : host₀.inEffect? = some name)
    (accepting : ∀ a ∈ i.adaptors, (w.actor a.handle).Accepting) :
    ∃ layouts x t v, host₀.layouts? = .ok layouts ∧
      (s.perform World.environment .activateDefault).run w = ((.activation x, t), v) ∧
      let preset := Xkb.State.keyboardFor ⟨state₀.settings, layouts, some name⟩ name
      ((∃ l ∈ layouts, l.name = name) → (∃ l ∈ layouts, l.name = nfc name) →
        ∃ r, Attainable w i preset r) ∧
      (∀ r, Attainable w i preset r → x = .activated ∧ t = s.withActive i r) ∧
      (usable? i preset = none → x ≠ .activated ∧ t.installed = some i) := by
  have settled := life.settled owned live
  obtain ⟨layouts, host, hlayouts, hactor⟩ := settled.primary_xkb actor
  rw [effective] at hactor
  let state : Xkb.State := ⟨state₀.settings, layouts, some name⟩
  let preset := state.keyboardFor name
  obtain ⟨x, t, v, run, outcome⟩ := activate_attains settled owned live accepting
    ((i.catalog.get? preset.layout preset.locale).getD preset)
  rw [← run_activateDefault live hactor rfl] at run
  simp only [attainable_registered settled.sound.indexed] at outcome
  refine ⟨layouts, x, t, v, hlayouts, run, attainable_default settled hactor, ?_, ?_⟩
  · intro r attainable
    rcases outcome with ⟨r', attainable', hx, ht⟩ | ⟨unattainable, -⟩
    · obtain rfl := attainable'.unique attainable
      exact ⟨hx, ht⟩
    · exact (unattainable ⟨r, attainable⟩).elim
  · intro unusable
    rcases outcome with ⟨r, ⟨c, a, usable, -⟩, -⟩ | ⟨-, stays⟩
    · cases unusable.symm.trans usable
    · exact stays

namespace Sample

/-- Someone else has switched the layout of the host. -/
def switched : XkbHost := { layoutHost with layout := some "de" }

/-- A host with a layout in effect that its list does not name. -/
def foreign : XkbHost := { layoutHost with layout := some "xx" }

def abroad : World := { actors := #[.xkb foreign {}] }

theorem opened_abroad : ∃ (s : Session) (i : Installed) (w : World),
    Lives {} ⟨[layoutSystem], abroad, false⟩ s w ∧ s.installed = some i ∧
    i.adaptors = [layoutSystem] ∧
    w.actor layoutSystem.handle = .xkb foreign ⟨{}, [⟨"us", none, "English"⟩], some "xx"⟩ :=
  ⟨_, _, _, .opened (s := _) rfl, rfl, rfl, rfl⟩

theorem promises_abroad : abroad.promises layoutSystem = [american] := by
  decide +kernel

end Sample

/-- The layout from the start comes into use again after another one was chosen elsewhere. -/
theorem default_activated_switched : ∃ (s : Session) (i : Installed) (w v : World) (r : Keyboard),
    Lives {} ⟨[Sample.layoutSystem], Sample.alone, false⟩ s w ∧ s.installed = some i ∧
    (w.actor i.primary.handle).reported? = some "de" ∧
    (s.perform World.environment .activateDefault).run w =
      ((.activation .activated, s.withActive i r), v) := by
  obtain ⟨s, i, w, life, live, hi, hw⟩ := Sample.lives_changed Sample.switched
  have hprimary : i.primary = Sample.layoutSystem := (List.cons.inj hi).1
  have hactor : w.actor 0 = .xkb Sample.switched ⟨{}, [⟨"us", none, "English"⟩], some "us"⟩ := by
    rw [World.actor, hw]
    rfl
  have accepting : ∀ a ∈ i.adaptors, (w.actor a.handle).Accepting := by
    rw [hi, List.forall_mem_singleton]
    change (w.actor 0).Accepting
    rw [hactor]
    rfl
  have horigin : Sample.alone.actor i.primary.handle = .xkb Sample.layoutHost {} := by
    rw [hprimary]
    rfl
  have effective : Sample.layoutHost.inEffect? = some "us" := by decide +kernel
  obtain ⟨layouts, x, t, v, hlayouts, run, hnamed, hused, -⟩ :=
    default_activated life (by decide) live horigin effective accepting
  obtain rfl : layouts = [⟨"us", none, "English"⟩] := (Except.ok.inj hlayouts).symm
  obtain ⟨r, attainable⟩ := hnamed (by decide +kernel) (by decide +kernel)
  obtain ⟨rfl, rfl⟩ := hused r attainable
  refine ⟨s, i, w, v, r, life, live, ?_, run⟩
  rw [hprimary]
  change (w.actor 0).reported? = some "de"
  rw [hactor]
  decide +kernel

/-- It is not so that the default can be activated whenever no host refuses anything: the list need
not name the layout that was in effect at the start. -/
theorem default_not_activated : ¬ ∀ (settings : SessionSettings) (p : Past) (s : Session)
    (w : World) (i : Installed) (host₀ : XkbHost) (state₀ : Xkb.State) (name : String),
    Lives settings p s w → (p.supplied.map (·.handle)).Nodup → s.installed = some i →
    p.origin.actor i.primary.handle = .xkb host₀ state₀ → host₀.inEffect? = some name →
    (∀ a ∈ i.adaptors, ∃ host state, w.actor a.handle = .xkb host state ∧ host.Faithful) →
    ∃ t v, (s.perform World.environment .activateDefault).run w =
      ((.activation .activated, t), v) := by
  intro always
  obtain ⟨s, i, w, life, live, hi, hactor⟩ := Sample.opened_abroad
  have hprimary : i.primary = Sample.layoutSystem := (List.cons.inj hi).1
  rw [← hprimary] at hactor
  have horigin : Sample.abroad.actor i.primary.handle = .xkb Sample.foreign {} := by
    rw [hprimary]
    rfl
  have faithful : ∀ a ∈ i.adaptors, ∃ host state,
      w.actor a.handle = .xkb host state ∧ host.Faithful := by
    rw [hi, List.forall_mem_singleton, ← hprimary]
    exact ⟨_, _, hactor, rfl, rfl, rfl⟩
  obtain ⟨t, v, run⟩ := always {} _ s w i _ _ "xx" life (by decide) live horigin
    (by decide +kernel) faithful
  have settled := life.settled (by decide) live
  have accepting : ∀ a ∈ i.adaptors, (w.actor a.handle).Accepting := by
    intro a ha
    obtain ⟨host, state, hx, hfaithful⟩ := faithful a ha
    rw [hx]
    exact hfaithful.setError
  rw [run_activateDefault live hactor rfl] at run
  obtain ⟨x, t', v', run', outcome⟩ := activate_attains settled (by decide) live accepting _
  cases run.symm.trans run'
  obtain ⟨r, attainable, -⟩ | ⟨-, hne, -⟩ := outcome
  · rw [attainable_registered settled.sound.indexed] at attainable
    obtain ⟨c, a, usable, -⟩ := attainable
    obtain ⟨hin, hkey⟩ := Catalog.get?_eq_some settled.sound.indexed (usable?_eq_some.1 usable).1
    rw [settled.catalog, hi, Catalog.toList_ofList, List.flatMap_singleton,
      Sample.promises_abroad] at hin
    obtain rfl := List.mem_singleton.1 hin
    revert hkey
    decide +kernel
  · exact hne rfl

end Session

end Keyboards
