import Keyboards.Ibus.Adaptor
import Keyboards.Proofs.Session.Lifecycle

/-! Who follows the focus events of a session knows its targets. -/

namespace Keyboards

namespace FocusTargets

variable {ts : FocusTargets} {t u : FocusTarget} {h : Option Handler} {es : List FocusEvent}
  {e : FocusEvent}

theorem number_ne (hne : t ≠ u) : t.number ≠ u.number := by
  intro he
  cases t
  cases u
  exact hne (congrArg FocusTarget.mk he)

theorem lookup_cons (v : FocusTarget) (g : Option Handler) (ts : FocusTargets)
    (u : FocusTarget) : List.lookup u ((v, g) :: ts) = if u = v then some g else ts.lookup u := by
  rw [List.lookup_cons]
  by_cases hu : u = v
  · simp [hu]
  · have hbeq : (u == v) = false := beq_eq_false_iff_ne.2 hu
    rw [hbeq, if_neg hu]

theorem lookup_insert (t : FocusTarget) (h : Option Handler) (ts : FocusTargets)
    (u : FocusTarget) : (insert t h ts).lookup u = if u = t then some h else ts.lookup u := by
  induction ts with
  | nil => rw [insert, lookup_cons, List.lookup_nil]
  | cons p rest ih =>
    obtain ⟨v, g⟩ := p
    rw [insert]
    by_cases hlt : t.number < v.number
    · rw [if_pos hlt, lookup_cons]
    rw [if_neg hlt]
    by_cases htv : t = v
    · rw [if_pos htv, lookup_cons, lookup_cons, htv]
      split_ifs <;> rfl
    · rw [if_neg htv, lookup_cons, lookup_cons, ih]
      by_cases hut : u = t
      · subst hut
        rw [if_neg htv, if_pos rfl, if_pos rfl]
      · rw [if_neg hut, if_neg hut]

theorem lookup_erase (t : FocusTarget) (ts : FocusTargets) (u : FocusTarget) :
    (erase t ts).lookup u = if u = t then none else ts.lookup u := by
  induction ts with
  | nil => simp [erase]
  | cons p rest ih =>
    obtain ⟨v, g⟩ := p
    by_cases hv : v = t
    · have hskip : erase t ((v, g) :: rest) = erase t rest := List.filter_cons_of_neg (by simp [hv])
      subst hv
      rw [hskip, ih, lookup_cons]
      split_ifs <;> rfl
    · have hkeep : erase t ((v, g) :: rest) = (v, g) :: erase t rest :=
        List.filter_cons_of_pos (by simpa using hv)
      rw [hkeep, lookup_cons, lookup_cons, ih]
      by_cases hu : u = v
      · subst hu
        rw [if_pos rfl, if_neg hv, if_pos rfl]
      · rw [if_neg hu, if_neg hu]

theorem contains_eq (t : FocusTarget) (ts : FocusTargets) :
    ts.contains t = (ts.lookup t).isSome := by
  induction ts with
  | nil => rfl
  | cons p rest ih =>
    obtain ⟨v, g⟩ := p
    rw [contains, List.any_cons, lookup_cons]
    by_cases hv : t = v
    · simp [hv]
    · rw [if_neg hv, ← ih]
      simp [contains, Ne.symm hv]

/-- The targets stand in increasing order, none of them twice. -/
def Increasing (ts : FocusTargets) : Prop := ts.Pairwise fun p q => p.1.number < q.1.number

theorem Increasing.erase (hts : Increasing ts) : Increasing (ts.erase t) := hts.filter _

theorem mem_insert {p : FocusTarget × Option Handler} (hp : p ∈ insert t h ts) :
    p = (t, h) ∨ p ∈ ts := by
  induction ts with
  | nil => simpa [insert] using hp
  | cons q rest ih =>
    rw [insert] at hp
    split_ifs at hp
    · simpa using hp
    · rcases List.mem_cons.1 hp with hp | hp
      · exact .inl hp
      · exact .inr (List.mem_cons_of_mem _ hp)
    · rcases List.mem_cons.1 hp with rfl | hp
      · exact .inr List.mem_cons_self
      · exact (ih hp).imp_right (List.mem_cons_of_mem _)

theorem Increasing.insert (hts : Increasing ts) : Increasing (ts.insert t h) := by
  induction ts with
  | nil => exact List.pairwise_singleton _ _
  | cons q rest ih =>
    obtain ⟨hhead, hrest⟩ := List.pairwise_cons.1 hts
    rw [FocusTargets.insert]
    split_ifs with hlt heq
    · refine List.pairwise_cons.2 ⟨?_, hts⟩
      intro p hp
      rcases List.mem_cons.1 hp with rfl | hp
      · exact hlt
      · exact hlt.trans (hhead p hp)
    · subst heq
      exact List.pairwise_cons.2 ⟨hhead, hrest⟩
    · refine List.pairwise_cons.2 ⟨?_, ih hrest⟩
      intro p hp
      rcases mem_insert hp with rfl | hp
      · have hne := number_ne heq
        change q.1.number < t.number
        omega
      · exact hhead p hp

/-- A target above all others is registered behind them. -/
theorem insert_above (habove : ∀ p ∈ ts, p.1.number < t.number) :
    insert t h ts = ts ++ [(t, h)] := by
  induction ts with
  | nil => rfl
  | cons q rest ih =>
    obtain ⟨hq, hrest⟩ := List.forall_mem_cons.1 habove
    have hne : t ≠ q.1 := by
      rintro rfl
      omega
    rw [insert, if_neg (by omega), if_neg hne, ih hrest]
    rfl

/-- What a follower has who heard events from the start. -/
def replay (es : List FocusEvent) : FocusTargets := es.foldl apply []

theorem replay_append (es fs : List FocusEvent) :
    replay (es ++ fs) = fs.foldl apply (replay es) := List.foldl_append

/-- Whoever hears of increasing targets one by one has them all. -/
theorem replay_added (hts : Increasing ts) : replay (ts.map fun p => .added p.1 p.2) = ts := by
  induction ts using List.reverseRecOn with
  | nil => rfl
  | append_singleton ts p ih =>
    obtain ⟨hinit, -, habove⟩ := List.pairwise_append.1 hts
    rw [List.map_append, replay_append, ih hinit]
    exact insert_above fun q hq => habove q hq p (by simp)

/-- What events say of a target in the end: the handler with which it was added last, unless it was
removed since. -/
def heard (es : List FocusEvent) (t : FocusTarget) : Option (Option Handler) :=
  es.foldl (fun known e => match e with
    | .added u h => if t = u then some h else known
    | .removing u => if t = u then none else known) none

theorem lookup_replay (es : List FocusEvent) (t : FocusTarget) :
    (replay es).lookup t = heard es t := by
  induction es using List.reverseRecOn with
  | nil => rfl
  | append_singleton es e ih =>
    rw [replay_append, heard, List.foldl_append]
    cases e with
    | added u h => exact (lookup_insert u h _ t).trans (by rw [ih]; rfl)
    | removing u => exact (lookup_erase u _ t).trans (by rw [ih]; rfl)

/-- No target is removed that was not added before. -/
def Grounded (es : List FocusEvent) : Prop :=
  ∀ before t after, es = before ++ .removing t :: after → (heard before t).isSome = true

theorem grounded_nil : Grounded [] := by
  intro before t after he
  simp at he

theorem Grounded.snoc (hes : Grounded es)
    (he : ∀ t, e = .removing t → (heard es t).isSome = true) : Grounded (es ++ [e]) := by
  intro before t after hsplit
  rcases List.eq_nil_or_concat after with rfl | ⟨after, last, rfl⟩
  · obtain ⟨rfl, hlast⟩ := List.append_inj' hsplit rfl
    exact he t (List.cons.inj hlast).1
  · rw [List.concat_eq_append, ← List.cons_append, ← List.append_assoc] at hsplit
    obtain ⟨rfl, -⟩ := List.append_inj' hsplit rfl
    exact hes before t after rfl

theorem grounded_added (ts : FocusTargets) : Grounded (ts.map fun p => .added p.1 p.2) := by
  intro before t after he
  have hmem : FocusEvent.removing t ∈ ts.map fun p => FocusEvent.added p.1 p.2 := by simp [he]
  simp at hmem

end FocusTargets

/-- The focus event that a request is about. -/
def Request.focus? : Request → Option FocusEvent
  | .focus e => some e
  | _ => none

theorem Request.focus?_of_isStaging {r : Request} (h : r.isStaging = true) : r.focus? = none := by
  cases r <;> first | rfl | cases h

theorem Request.focus?_of_isQuestion {r : Request} (h : r.isQuestion = true) :
    r.focus? = none := by
  cases r <;> first | rfl | cases h

namespace History

variable {a : Adaptor} {as : List Adaptor} {g h : History}

/-- The focus events that an adaptor got. -/
def focusEvents (a : Adaptor) (h : History) : List FocusEvent :=
  (calls a h).filterMap (·.1.focus?)

theorem focusEvents_append : focusEvents a (g ++ h) = focusEvents a g ++ focusEvents a h := by
  rw [focusEvents, calls_append, List.filterMap_append]
  rfl

theorem focusEvents_of_calls_eq_nil (hcalls : calls a h = []) : focusEvents a h = [] := by
  rw [focusEvents, hcalls, List.filterMap_nil]

/-- Where no one hears of targets. -/
def Silent (h : History) : Prop := Asks (fun _ r => r.focus? = none) h

theorem Silent.focusEvents (hs : Silent h) (a : Adaptor) : focusEvents a h = [] :=
  List.filterMap_eq_nil_iff.2 fun _ hc => hs.of_mem_calls hc

theorem calls_news (nodup : as.Nodup) (ls : List Listener) (e : FocusEvent) :
    calls a (news as ls e) = if a ∈ as then [⟨.focus e, ()⟩] else [] := by
  have htold : calls a (ls.map fun l => .told l e) = [] := by
    simp [calls]
  rw [news, calls_append, htold, List.append_nil, calls_round nodup (.focus e) ()]

theorem focusEvents_news (nodup : as.Nodup) (ls : List Listener) (e : FocusEvent) :
    focusEvents a (news as ls e) = if a ∈ as then [e] else [] := by
  rw [focusEvents, calls_news nodup]
  split_ifs <;> rfl

theorem focusEvents_announcements (nodup : as.Nodup) (targets : FocusTargets) :
    focusEvents a (announcements targets as) =
      if a ∈ as then targets.map fun p => .added p.1 p.2 else [] := by
  induction targets with
  | nil => simp [announcements, focusEvents]
  | cons p targets ih =>
    have hfirst : focusEvents a (as.map fun b => .asked b (.focus (.added p.1 p.2)) ()) =
        if a ∈ as then [.added p.1 p.2] else [] := by
      rw [focusEvents, calls_round nodup (.focus _) ()]
      split_ifs <;> rfl
    rw [announcements, List.flatMap_cons, focusEvents_append, hfirst]
    change _ ++ focusEvents a (announcements targets as) = _
    rw [ih]
    split_ifs <;> rfl

end History

namespace Ibus

/-- Answers requests in order, and tells what the adaptor keeps in the end. -/
def serve {m : Type → Type} [Monad m] (host : Host m) (s : State) : List Request → m State
  | [] => pure s
  | r :: rs => do
    let (_, s) ← answer host s r
    serve host s rs

variable {σ : Type} {host : Host (StateM σ)}

theorem targets_begin (s : State) (w : σ) : ((begin host s).run w).1.2.targets = s.targets := by
  simp only [begin, StateT.run, bind, StateT.bind]
  rcases host.listEngines w with ⟨_ | listing, v⟩
  · rfl
  · dsimp only
    cases Engine.readList listing <;> rfl

/-- Whatever the host does, only focus events and a close change the targets. -/
theorem targets_answer (s : State) {r : Request} (hr : r ≠ .close) (w : σ) :
    ((answer host s r).run w).1.2.targets = r.focus?.elim s.targets s.targets.apply := by
  cases r with
  | close => exact (hr rfl).elim
  | start => exact targets_begin s w
  | _ => rfl

theorem targets_serve (s : State) {rs : List Request} (running : ∀ r ∈ rs, r ≠ .close) (w : σ) :
    ((serve host s rs).run w).1.targets =
      (rs.filterMap Request.focus?).foldl FocusTargets.apply s.targets := by
  induction rs generalizing s w with
  | nil => rfl
  | cons r rs ih =>
    obtain ⟨hr, hrs⟩ := List.forall_mem_cons.1 running
    have hstep : (serve host s (r :: rs)).run w =
        (serve host ((answer host s r).run w).1.2 rs).run ((answer host s r).run w).2 := rfl
    rw [hstep, ih _ hrs, targets_answer s hr, List.filterMap_cons]
    cases r.focus? <;> rfl

end Ibus

namespace Session

open History FocusTargets

variable {o : Oracle} {settings : SessionSettings} {offered : List Adaptor} {cs : List Command}
  {s t : Session} {i j : Installed} {g h new : History} {a : Adaptor} {c : Command}
  {reply : Reply} {result : Except SessionError Installed}

/-- The targets are in order, the adaptors in place know them from what they heard, and nobody hears
of the removal of a target that is not known. -/
structure Followed (s : Session) (h : History) : Prop where
  increasing : Increasing s.targets
  following : ∀ i, s.installed = some i → ∀ a ∈ i.adaptors, replay (focusEvents a h) = s.targets
  grounded : ∀ a, Grounded (focusEvents a h)

/-- What has nothing to do with targets changes nothing about who knows them. -/
theorem Followed.silent (before : Followed s g) (quiet : Silent new)
    (targets : t.targets = s.targets)
    (stays : ∀ j, t.installed = some j → ∃ i, s.installed = some i ∧ j.adaptors = i.adaptors) :
    Followed t (g ++ new) := by
  have hsame : ∀ a, focusEvents a (g ++ new) = focusEvents a g := fun a => by
    rw [focusEvents_append, quiet.focusEvents, List.append_nil]
  constructor
  · rw [targets]
    exact before.increasing
  · intro j after a ha
    obtain ⟨i, live, hadaptors⟩ := stays j after
    rw [hsame, targets]
    exact before.following i live a (hadaptors ▸ ha)
  · intro a
    rw [hsame]
    exact before.grounded a

/-- News of a target reach everyone in place. -/
theorem Followed.news {e : FocusEvent} (before : Followed s g) (live : s.installed = some i)
    (nodup : i.adaptors.Nodup) (known : ∀ t, e = .removing t → s.targets.contains t = true) :
    Followed { s with targets := s.targets.apply e } (g ++ news i.adaptors s.listeners e) := by
  have hevents : ∀ a ∈ i.adaptors, focusEvents a (g ++ History.news i.adaptors s.listeners e) =
      focusEvents a g ++ [e] := fun a ha => by
    rw [focusEvents_append, focusEvents_news nodup, if_pos ha]
  constructor
  · cases e with
    | added t h => exact before.increasing.insert
    | removing t => exact before.increasing.erase
  · intro k hk a ha
    cases live.symm.trans hk
    rw [hevents a ha, replay_append, before.following i live a ha]
    rfl
  · intro a
    by_cases ha : a ∈ i.adaptors
    · rw [hevents a ha]
      refine (before.grounded a).snoc ?_
      intro t he
      rw [← lookup_replay, before.following i live a ha, ← contains_eq]
      exact known t he
    · rw [focusEvents_append, focusEvents_news nodup, if_neg ha, List.append_nil]
      exact before.grounded a

theorem Step.followed (h : Step s new t) (before : Followed s g) (live : s.installed = some i)
    (nodup : i.adaptors.Nodup) : Followed t (g ++ new) := by
  obtain ⟨k, after, -⟩ := h.frame live
  have hstays : ∀ j, t.installed = some j → ∃ i, s.installed = some i ∧
      j.adaptors = i.adaptors := by
    intro j hj
    cases after.symm.trans hj
    exact ⟨i, live, rfl⟩
  cases h with
  | question _ _ asks =>
    exact before.silent (asks_singleton (Request.focus?_of_isQuestion asks)) rfl hstays
  | warning =>
    refine before.silent ?_ rfl hstays
    intro a r answer he
    simp at he
  | adoption => exact before.silent (asks_singleton rfl) rfl hstays
  | switch =>
    exact before.silent (asks_append.2 ⟨asks_letting fun _ _ => rfl, asks_singleton rfl⟩) rfl hstays
  | failure =>
    exact before.silent (asks_append.2 ⟨asks_letting fun _ _ => rfl,
      asks_append.2 ⟨asks_singleton rfl, asks_restoring fun _ _ => rfl⟩⟩) rfl hstays
  | release =>
    refine before.silent ?_ rfl hstays
    split_ifs
    · intro a r answer he
      cases he
    · exact asks_letting fun _ _ => rfl
  | register live' t handler =>
    cases live.symm.trans live'
    exact before.news live nodup (e := .added t handler) (by simp)
  | unregister live' known =>
    rename_i i' t
    cases live.symm.trans live'
    refine before.news live nodup (e := .removing t) ?_
    rintro _ ⟨⟩
    exact known
  | listen =>
    refine before.silent ?_ rfl hstays
    intro a r answer he
    cases he

theorem Steps.followed (h : Steps s new t) (before : Followed s g) (live : s.installed = some i)
    (nodup : i.adaptors.Nodup) : Followed t (g ++ new) := by
  induction h with
  | refl =>
    rw [List.append_nil]
    exact before
  | tail path last ih =>
    obtain ⟨k, hk, -⟩ := path.frame live
    rw [← List.append_assoc]
    exact last.followed ih hk nodup

theorem Installing.silent (h : Installing offered result new) : Silent new :=
  h.asks.mono fun _ _ hr => Request.focus?_of_isStaging hr.2

/-- Adaptors that take the place of others hear of all targets before anything else. -/
theorem Followed.replacement (before : Followed s g) (hi : Installing offered (.ok j) new)
    (unknown : ∀ a ∈ offered, calls a g = []) :
    Followed (s.withInstalled j) (g ++ (new ++ (announcements s.targets j.adaptors ++
      (closings i.adaptors ++ introduction j)))) := by
  have hnodup := nodup_adaptors (sound_of_installing hi)
  have hrest : Silent (closings i.adaptors ++ introduction j) :=
    asks_append.2 ⟨asks_closings fun _ _ => rfl, asks_introduction j⟩
  have hevents : ∀ a, focusEvents a (g ++ (new ++ (announcements s.targets j.adaptors ++
      (closings i.adaptors ++ introduction j)))) = focusEvents a g ++
        if a ∈ j.adaptors then s.targets.map fun p => .added p.1 p.2 else [] := fun a => by
    simp only [focusEvents_append (h := _ ++ _), hi.silent.focusEvents,
      focusEvents_announcements hnodup, hrest.focusEvents, List.nil_append, List.append_nil]
  have hnew : ∀ a ∈ j.adaptors, focusEvents a g = [] := fun a ha =>
    focusEvents_of_calls_eq_nil (unknown a (hi.mem_of_mem_adaptors ha))
  constructor
  · exact before.increasing
  · rintro _ ⟨⟩ a ha
    rw [hevents, hnew a ha, if_pos ha]
    exact replay_added before.increasing
  · intro a
    rw [hevents]
    by_cases ha : a ∈ j.adaptors
    · rw [hnew a ha, if_pos ha]
      exact grounded_added s.targets
    · rw [if_neg ha, List.append_nil]
      exact before.grounded a

theorem Performed.followed (h : Performed s c reply new t) (before : Followed s g)
    (live : s.installed = some i) (nodup : i.adaptors.Nodup)
    (unknown : ∀ a ∈ c.offers, calls a g = []) : Followed t (g ++ new) := by
  cases h with
  | steps plain path => exact path.followed before live nodup
  | refusal _ installing =>
    exact before.silent installing.silent rfl fun j hj => ⟨j, hj, rfl⟩
  | replacement _ installing => exact before.replacement installing unknown
  | refresh live' listed =>
    refine before.silent (asks_enumerations fun _ _ => rfl) rfl ?_
    rintro _ ⟨⟩
    exact ⟨_, live', rfl⟩
  | shutDown =>
    refine before.silent (asks_closings fun _ _ => rfl) rfl ?_
    rintro _ ⟨⟩

theorem reached_followed (reached : Reached o settings offered cs s h)
    (owned : (supplied offered cs).Nodup) : Followed s h := by
  refine Reached.induct (P := fun cs s h => (supplied offered cs).Nodup → Followed s h)
    ?_ ?_ ?_ reached owned
  · intro i new _ installing _
    have hquiet : Silent (new ++ introduction i) :=
      asks_append.2 ⟨installing.silent, asks_introduction i⟩
    constructor
    · exact .nil
    · rintro _ ⟨⟩ a _
      rw [hquiet.focusEvents]
      rfl
    · intro a
      rw [hquiet.focusEvents]
      exact grounded_nil
  · intro cs s h i c reply new t before ih live _ hperf owned
    have hsub : (supplied offered cs).Nodup := by
      rw [supplied_snoc] at owned
      exact owned.of_append_left
    exact hperf.followed (ih hsub) live (nodup_adaptors (reached_sound before live)) fun a ha =>
      calls_of_offered owned before ha
  · intro cs s h c reply _ ih _ _ owned
    rw [supplied_snoc] at owned
    exact ih owned.of_append_left

theorem Serving.ne_close {made : List Call} (hs : Serving made) : ∀ c ∈ made, c.1 ≠ .close := by
  obtain ⟨b, body, work, rfl⟩ := hs
  intro c hc he
  rcases List.mem_cons.1 hc with rfl | hc
  · cases he
  rcases List.mem_cons.1 hc with rfl | hc
  · cases he
  · have hwork := work c hc
    rw [he] at hwork
    cases hwork

/-- Whatever was done with a session, every adaptor in place that follows the focus events knows the
registered targets with their handlers, and those that an adaptor for input methods keeps, on
whatever host, are the registered ones in increasing order. No adaptor at all ever hears of the
removal of a target that it does not know. -/
theorem reached_focus (owned : (supplied offered cs).Nodup)
    (reached : Reached o settings offered cs s h) :
    (∀ i, s.installed = some i → ∀ a ∈ i.adaptors,
      (∀ t, heard (focusEvents a h) t = s.targets.lookup t) ∧
      ∀ (σ : Type) (host : Ibus.Host (StateM σ)) (config : IbusSettings) (w : σ),
        let kept := ((Ibus.serve host { settings := config } ((calls a h).map Sigma.fst)).run w).1
        kept.targets.map Prod.fst = s.targets.map Prod.fst ∧
        (kept.targets.map Prod.fst).Pairwise fun t u => t.number < u.number) ∧
    ∀ a before t after, focusEvents a h = before ++ .removing t :: after →
      (heard before t).isSome = true := by
  have hfollowed := reached_followed reached owned
  refine ⟨?_, hfollowed.grounded⟩
  intro i live a ha
  have hreplay := hfollowed.following i live a ha
  have hserving := ((reached_orderly reached owned).serving i live a ha).2
  have hrunning : ∀ r ∈ (calls a h).map Sigma.fst, r ≠ .close := by
    intro r hr
    obtain ⟨c, hc, rfl⟩ := List.mem_map.1 hr
    exact hserving.ne_close c hc
  refine ⟨fun t => by rw [← lookup_replay, hreplay], ?_⟩
  intro σ host config w
  have hkept :
      ((Ibus.serve host { settings := config } ((calls a h).map Sigma.fst)).run w).1.targets =
        s.targets := by
    rw [Ibus.targets_serve _ hrunning, List.filterMap_map]
    exact hreplay
  dsimp only
  rw [hkept]
  exact ⟨rfl, List.pairwise_map.2 hfollowed.increasing⟩

namespace Sample

/-- Targets were registered, the adaptors were replaced, and a target was removed. -/
def moves : List Command :=
  [.register ⟨7⟩ (some ⟨1⟩), .register ⟨5⟩ none, .replaceAdaptors [spare], .unregister ⟨5⟩]

/-- A session with targets. -/
def attached (i : Installed) (targets : FocusTargets) : Session := { fresh {} i with targets }

theorem reached_moves : ∃ c h, Reached (host []) {} [system, methods] moves
    (attached ⟨spare, none, c, .zero⟩ [(⟨7⟩, some ⟨1⟩)]) h := by
  obtain ⟨g₀, opened⟩ := reached_opening []
  obtain ⟨g₁, one⟩ : ∃ g, Reached (host []) {} [system, methods] (moves.take 1)
      (attached (both [us] .zero) [(⟨7⟩, some ⟨1⟩)]) g :=
    ⟨_, reached_snoc.2 ⟨_, _, _, opened, rfl⟩⟩
  obtain ⟨g₂, two⟩ : ∃ g, Reached (host []) {} [system, methods] (moves.take 2)
      (attached (both [us] .zero) [(⟨5⟩, none), (⟨7⟩, some ⟨1⟩)]) g :=
    ⟨_, reached_snoc.2 ⟨_, _, _, one, rfl⟩⟩
  obtain ⟨c, g₃, three⟩ : ∃ c g, Reached (host []) {} [system, methods] (moves.take 3)
      (attached ⟨spare, none, c, .zero⟩ [(⟨5⟩, none), (⟨7⟩, some ⟨1⟩)]) g :=
    ⟨_, _, reached_snoc.2 ⟨_, _, _, two, rfl⟩⟩
  exact ⟨c, _, reached_snoc.2 ⟨_, _, _, three, rfl⟩⟩

end Sample

/-- An adaptor that came later knows what was registered before. -/
theorem reached_focus_moved : ∃ (s : Session) (h : History) (i : Installed),
    Reached (Sample.host []) {} [Sample.system, Sample.methods] Sample.moves s h ∧
    s.installed = some i ∧ spare ∈ i.adaptors ∧
    heard (focusEvents spare h) ⟨7⟩ = some (some ⟨1⟩) ∧ heard (focusEvents spare h) ⟨5⟩ = none ∧
    ∀ (σ : Type) (host : Ibus.Host (StateM σ)) (w : σ), ((Ibus.serve host {}
      ((calls spare h).map Sigma.fst)).run w).1.targets.map Prod.fst = [⟨7⟩] := by
  obtain ⟨c, h, reached⟩ := Sample.reached_moves
  obtain ⟨hheard, hkept⟩ := (reached_focus (by decide) reached).1 _ rfl spare List.mem_cons_self
  exact ⟨_, h, _, reached, rfl, List.mem_cons_self, hheard ⟨7⟩, hheard ⟨5⟩,
    fun σ host w => (hkept σ host {} w).1⟩

end Session

end Keyboards
