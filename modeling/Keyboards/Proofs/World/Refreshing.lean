import Keyboards.Proofs.World.Lives

/-! What it comes to when a session asks its adaptors anew for their keyboards. -/

namespace Keyboards

open History Simulation

namespace Catalog

/-- A catalog is filled again by what it holds. -/
theorem ofList_toList (ks : List Keyboard) : ofList (ofList ks).toList = ofList ks := by
  have hsnoc : ∀ ks k, ofList (ks ++ [k]) = ((ofList ks).insert k).2 := by
    intro ks k
    rw [ofList, insertAll_append]
    rfl
  induction ks using List.reverseRecOn with
  | nil => rfl
  | append_singleton ks k ih =>
    rw [hsnoc, toList_insert (indexed_ofList ks)]
    obtain ⟨hsame, htaken⟩ | ⟨hzero, hfree, -⟩ := insert_cases (ofList ks) k
    · rw [contains_iff (indexed_ofList ks)] at htaken
      rw [if_pos htaken, hsame]
      exact ih
    · rw [← Bool.not_eq_true, contains_iff (indexed_ofList ks)] at hfree
      rw [if_neg (not_or.2 ⟨by simp [hzero], hfree⟩), hsnoc, ih]

theorem ofList_eq_iff {ks ls : List Keyboard} :
    ofList ks = ofList ls ↔ firstOfEach ks = firstOfEach ls := by
  constructor
  · intro h
    rw [← toList_ofList, h, toList_ofList]
  · intro h
    rw [← ofList_toList ks, ← ofList_toList ls, toList_ofList, toList_ofList, h]

end Catalog

namespace Simulation.World

variable {w : World} {a : Adaptor}

/-- The adaptors with a host of their own enumerate from memory, and log nothing. -/
theorem ask_enumerate (shipped : (w.actor a.handle).isShipped = true) :
    (w.ask a .enumerate).2 = w := by
  apply w.ask_idle rfl
  cases hx : w.actor a.handle with
  | xkb | ibus => rfl
  | scripted script =>
    rw [hx] at shipped
    cases shipped

theorem replay_enumerations {offers : List Offer}
    (shipped : ∀ a ∈ offers.map Prod.fst, (w.actor a.handle).isShipped = true) :
    w.replay (enumerations offers) = w := by
  induction offers with
  | nil => rfl
  | cons x offers ih =>
    rw [List.map_cons, List.forall_mem_cons] at shipped
    change (w.ask x.1 .enumerate).2.replay (enumerations offers) = w
    rw [ask_enumerate shipped.1, ih shipped.2]

end Simulation.World

namespace Session

variable {settings : SessionSettings} {offered : List Adaptor} {p : Past} {s : Session}
  {v w : World} {i j : Installed}

/-- With adaptors that enumerate from memory nothing changes when they are asked anew. -/
theorem perform_refresh (settled : Settled p w i) (live : s.installed = some i)
    (shipped : ∀ a ∈ i.adaptors, (w.actor a.handle).isShipped = true) :
    (s.perform World.environment .refresh).run w = ((.done, s), w) := by
  rcases run : (s.perform World.environment .refresh).run w with ⟨⟨reply, t⟩, v⟩
  obtain ⟨new, truthful, rfl, performed⟩ := performed_of_run live run
  cases performed with
  | steps plain => cases plain
  | refresh live' listed =>
    cases live.symm.trans live'
    rw [settled.catalog_refreshed listed truthful, refreshed_same live settled.sound,
      World.replay_enumerations (listed ▸ shipped)]

/-- The catalog of a session that new adaptors open holds what they promise. -/
theorem catalog_of_renewed {t : Session} (nodup : (offered.map (·.handle)).Nodup)
    (run : (start World.environment settings offered).run w.renewed = (.ok t, v))
    (after : t.installed = some j) : j.catalog = Catalog.ofList (j.adaptors.flatMap w.promises) := by
  have hpromises : w.renewed.promises = w.promises := by
    funext a
    rw [World.promises, World.actor_renewed, Actor.renewed_renewed]
    rfl
  obtain ⟨new, truthful, rfl, opening⟩ := opening_of_run run
  cases opening with
  | opened installing =>
    cases after
    rw [← hpromises]
    exact catalog_of_installing nodup installing (World.truthful_append.1 truthful).1

/-- With the adaptors that have hosts of their own a session that asks anew for the keyboards stays
as it is: its catalog holds what the hosts listed when the adaptors were installed. So a session
that new adaptors over the hosts as they are now would open has the same catalog if and only if the
hosts list now what they listed then. -/
theorem refresh_up_to_date_iff (life : Lives settings p s w)
    (owned : (p.supplied.map (·.handle)).Nodup) (live : s.installed = some i)
    (shipped : ∀ a ∈ i.adaptors, (w.actor a.handle).isShipped = true) :
    (s.perform World.environment .refresh).run w = ((.done, s), w) ∧
    i.catalog = Catalog.ofList (i.adaptors.flatMap p.origin.promises) ∧
    ∀ (settings' : SessionSettings) (offered : List Adaptor) (t : Session) (v : World)
      (j : Installed), (offered.map (·.handle)).Nodup →
      (start World.environment settings' offered).run w.renewed = (.ok t, v) →
      t.installed = some j → j.adaptors = i.adaptors →
      (i.catalog = j.catalog ↔
        Catalog.firstOfEach (i.adaptors.flatMap p.origin.promises) =
          Catalog.firstOfEach (i.adaptors.flatMap w.promises)) := by
  have settled := life.settled owned live
  refine ⟨perform_refresh settled live shipped, settled.catalog, ?_⟩
  intro settings' offered t v j nodup run after same
  rw [settled.catalog, catalog_of_renewed nodup run after, same, Catalog.ofList_eq_iff]

namespace Sample

/-- The host with a layout listed twice, and with another one listed besides. -/
def repeated : XkbHost := { layoutHost with rules := "! layout\n  us  English\n  us  American\n" }

def extended : XkbHost := { layoutHost with rules := "! layout\n  us  English\n  de  German\n" }

def alone : World := { actors := #[.xkb layoutHost {}] }

/-- The adaptor was installed before its host was changed. -/
theorem lives_changed (host : XkbHost) : ∃ (s : Session) (i : Installed) (w : World),
    Lives {} ⟨[layoutSystem], alone, false⟩ s w ∧ s.installed = some i ∧
    i.adaptors = [layoutSystem] ∧
    w.actors = #[.xkb host ⟨{}, [⟨"us", none, "English"⟩], some "us"⟩] :=
  ⟨_, _, _, .changed (.opened (s := _) rfl) 0 (.xkb host), rfl, rfl, rfl⟩

variable {w : World} {host : XkbHost} {state : Xkb.State}

theorem starts_renewed (hh : host = repeated ∨ host = extended)
    (hw : w.actors = #[.xkb host state]) : ∃ (t : Session) (j : Installed) (v : World),
    (start World.environment {} [layoutSystem]).run w.renewed = (.ok t, v) ∧
    t.installed = some j ∧ j.adaptors = [layoutSystem] := by
  have hrenewed : w.renewed.actors = #[(Actor.xkb host state).renewed] := by
    simp [World.renewed, hw]
  generalize w.renewed = u at hrenewed ⊢
  obtain ⟨actors, log, journal⟩ := u
  cases hrenewed
  rcases hh with rfl | rfl <;> exact ⟨_, _, _, rfl, rfl, rfl⟩

theorem shipped_single (hw : w.actors = #[.xkb host state]) (hi : i.adaptors = [layoutSystem]) :
    ∀ a ∈ i.adaptors, (w.actor a.handle).isShipped = true := by
  rw [hi, List.forall_mem_singleton, World.actor, hw]
  rfl

theorem promises_single (hw : w.actors = #[.xkb host state]) :
    [layoutSystem].flatMap w.promises = (Actor.xkb host state).renewed.started.listed := by
  rw [List.flatMap_singleton, World.promises, World.actor, hw]
  rfl

end Sample

/-- That a layout is listed twice makes no difference. -/
theorem refresh_up_to_date_iff_repeated : ∃ (s t : Session) (i j : Installed) (w v : World),
    Lives {} ⟨[Sample.layoutSystem], Sample.alone, false⟩ s w ∧ s.installed = some i ∧
    (s.perform World.environment .refresh).run w = ((.done, s), w) ∧
    (start World.environment {} [Sample.layoutSystem]).run w.renewed = (.ok t, v) ∧
    t.installed = some j ∧ i.catalog = j.catalog := by
  obtain ⟨s, i, w, life, live, hi, hw⟩ := Sample.lives_changed Sample.repeated
  obtain ⟨t, j, v, run, after, hj⟩ := Sample.starts_renewed (.inl rfl) hw
  obtain ⟨hrefresh, -, hsame⟩ :=
    refresh_up_to_date_iff life (by decide) live (Sample.shipped_single hw hi)
  refine ⟨s, t, i, j, w, v, life, live, hrefresh, run, after, ?_⟩
  refine (hsame {} _ t v j (by decide) run after (hj.trans hi.symm)).2 ?_
  rw [hi, Sample.promises_single hw, Sample.promises_single (w := Sample.alone) rfl]
  decide +kernel

/-- It is not so that the catalog is that of the hosts as they are after a session asked its
adaptors anew: a layout that was added to the list of the host is missing. -/
theorem refresh_not_up_to_date : ¬ ∀ (settings : SessionSettings) (p : Past) (s : Session)
    (w : World) (i : Installed), Lives settings p s w → (p.supplied.map (·.handle)).Nodup →
    s.installed = some i → (∀ a ∈ i.adaptors, (w.actor a.handle).isShipped = true) →
    ∀ (r t : Session) (u v : World) (j : Installed),
      (s.perform World.environment .refresh).run w = ((.done, r), u) →
      (start World.environment settings i.adaptors).run u.renewed = (.ok t, v) →
      t.installed = some j → j.adaptors = i.adaptors → r.catalog = t.catalog := by
  intro always
  obtain ⟨s, i, w, life, live, hi, hw⟩ := Sample.lives_changed Sample.extended
  obtain ⟨t, j, v, run, after, hj⟩ := Sample.starts_renewed (.inr rfl) hw
  have shipped := Sample.shipped_single hw hi
  have settled := life.settled (by decide) live
  have hsame := always {} _ s w i life (by decide) live shipped s t w v j
    (perform_refresh settled live shipped) (hi ▸ run) after (hj.trans hi.symm)
  simp only [Session.catalog, Session.get, live, after, Except.map, Except.ok.injEq] at hsame
  rw [settled.catalog, catalog_of_renewed (by decide) run after, Catalog.ofList_eq_iff, hi, hj,
    Sample.promises_single hw, Sample.promises_single (w := Sample.alone) rfl] at hsame
  exact absurd hsame (by decide +kernel)

end Session

end Keyboards
