import Keyboards.Proofs.Session.Deliveries

/-! What listeners hear over a whole run, computed from the commands alone. -/

namespace Keyboards

open FocusTargets

theorem FocusTargets.increasing_replay (es : List FocusEvent) : Increasing (replay es) := by
  induction es using List.reverseRecOn with
  | nil => exact .nil
  | append_singleton es e ih =>
    rw [replay_append]
    cases e with
    | added t handler => exact ih.insert
    | removing t => exact ih.erase

/-- What one of the listeners was told. -/
def Listener.heardOf (l : Listener) (told : List (Listener × FocusEvent)) : List FocusEvent :=
  told.filterMap fun p => if p.1 = l then some p.2 else none

/-- What those outside have to do with targets: the events that took effect, the listeners so far
and what they were told. -/
structure Broadcast where
  events : List FocusEvent := []
  listeners : List Listener := []
  told : List (Listener × FocusEvent) := []

namespace Broadcast

variable {b : Broadcast} {c : Command} {cs before after : List Command} {l : Listener}

/-- One more event, of which every listener so far is told. -/
def emit (b : Broadcast) (e : FocusEvent) : Broadcast :=
  { b with events := b.events ++ [e], told := b.told ++ b.listeners.map fun l => (l, e) }

/-- What a command does. A removal takes effect if the target is known. -/
def step (b : Broadcast) : Command → Broadcast
  | .register t handler => b.emit (.added t handler)
  | .unregister t => if (heard b.events t).isSome then b.emit (.removing t) else b
  | .listen l => { b with listeners := b.listeners ++ [l] }
  | _ => b

/-- What commands do until the session is shut down. -/
def of (cs : List Command) : Broadcast := (cs.takeWhile (!·.shutsDown)).foldl step {}

theorem step_of_not_isAboutFocus (other : c.isAboutFocus = false) : b.step c = b := by
  cases c <;> first | rfl | cases other

theorem of_append_of_open (still : ∀ d ∈ before, d.shutsDown = false) (after : List Command) :
    of (before ++ after) = (after.takeWhile (!·.shutsDown)).foldl step (of before) := by
  have hall : ∀ d ∈ before, (!d.shutsDown) = true := fun d hd => by rw [still d hd]; rfl
  rw [of, of, List.takeWhile_append_of_pos hall, List.takeWhile_eq_self_iff.2 hall,
    List.foldl_append]

theorem of_append_of_shut (shut : ∃ d ∈ before, d.shutsDown = true) (after : List Command) :
    of (before ++ after) = of before := by
  have hshort : (before.takeWhile (!·.shutsDown)).length ≠ before.length := by
    intro hlength
    have hself := (List.takeWhile_prefix _).eq_of_length hlength
    obtain ⟨d, hd, hshut⟩ := shut
    have hopen := List.takeWhile_eq_self_iff.1 hself d hd
    rw [hshut] at hopen
    cases hopen
  rw [of, of, List.takeWhile_append, if_neg hshort]

theorem of_snoc_of_open (still : ∀ d ∈ cs, d.shutsDown = false) (c : Command) :
    of (cs ++ [c]) = (of cs).step c := by
  rw [of_append_of_open still]
  cases c <;> rfl

/-- A command other than to listen changes nothing about who listens, and a listener hears of what
takes effect as often as it listens. -/
theorem step_of_ne_listen (b : Broadcast) (hc : c ≠ .listen l) :
    (b.step c).listeners.count l = b.listeners.count l ∧
    ∃ more, (b.step c).events = b.events ++ more ∧ l.heardOf (b.step c).told =
      l.heardOf b.told ++ more.flatMap (List.replicate (b.listeners.count l)) := by
  have hemit : ∀ e, l.heardOf (b.emit e).told =
      l.heardOf b.told ++ List.replicate (b.listeners.count l) e := by
    intro e
    rw [Listener.heardOf, emit, List.filterMap_append, ← Listener.heardOf]
    congr 1
    induction b.listeners with
    | nil => rfl
    | cons k ks ih =>
      by_cases hk : k = l
      · simp [hk, ih, List.replicate_succ]
      · simp [hk, ih]
  have heffect : ∀ e, (b.emit e).listeners.count l = b.listeners.count l ∧
      ∃ more, (b.emit e).events = b.events ++ more ∧ l.heardOf (b.emit e).told =
        l.heardOf b.told ++ more.flatMap (List.replicate (b.listeners.count l)) :=
    fun e => ⟨rfl, [e], rfl, by rw [hemit]; simp⟩
  have hnothing : ∃ more, b.events = b.events ++ more ∧ l.heardOf b.told =
      l.heardOf b.told ++ more.flatMap (List.replicate (b.listeners.count l)) :=
    ⟨[], by simp, by simp⟩
  cases c with
  | register t handler => exact heffect _
  | unregister t =>
    rw [step]
    split
    · exact heffect _
    · exact ⟨rfl, hnothing⟩
  | listen k =>
    have hk : k ≠ l := fun he => hc (congrArg Command.listen he)
    exact ⟨by simp [step, hk], hnothing⟩
  | _ => exact ⟨rfl, hnothing⟩

theorem foldl_of_ne_listen (b : Broadcast) (hcs : ∀ c ∈ cs, c ≠ .listen l) :
    ∃ more, (cs.foldl step b).events = b.events ++ more ∧ l.heardOf (cs.foldl step b).told =
      l.heardOf b.told ++ more.flatMap (List.replicate (b.listeners.count l)) ∧
      (cs.foldl step b).listeners.count l = b.listeners.count l := by
  induction cs generalizing b with
  | nil => exact ⟨[], by simp, by simp, rfl⟩
  | cons c cs ih =>
    rw [List.forall_mem_cons] at hcs
    obtain ⟨hcount, first, hevents, hheard⟩ := step_of_ne_listen b hcs.1
    obtain ⟨rest, hevents', hheard', hcount'⟩ := ih (b.step c) hcs.2
    refine ⟨first ++ rest, ?_, ?_, hcount'.trans hcount⟩
    · rw [List.foldl_cons, hevents', hevents, List.append_assoc]
    · rw [List.foldl_cons, hheard', hheard, hcount, List.flatMap_append, List.append_assoc]

/-- Who does not listen hears nothing. -/
theorem of_of_ne_listen (hcs : ∀ c ∈ cs, c ≠ .listen l) :
    l.heardOf (of cs).told = [] ∧ (of cs).listeners.count l = 0 := by
  have hlive : ∀ c ∈ cs.takeWhile (!·.shutsDown), c ≠ .listen l := fun c hc =>
    hcs c ((List.takeWhile_sublist _).subset hc)
  obtain ⟨more, -, hheard, hcount⟩ := foldl_of_ne_listen {} hlive
  refine ⟨?_, hcount⟩
  rw [of, hheard]
  simp [Listener.heardOf]

/-- A listener that was added once is told exactly the events that took effect since. -/
theorem heardOf_told_of (hbefore : ∀ c ∈ before, c ≠ .listen l) (hafter : ∀ c ∈ after, c ≠ .listen l) :
    l.heardOf (of (before ++ .listen l :: after)).told =
      (of (before ++ .listen l :: after)).events.drop (of before).events.length := by
  obtain ⟨hdeaf, hcount⟩ := of_of_ne_listen hbefore
  by_cases shut : ∃ d ∈ before, d.shutsDown = true
  · rw [of_append_of_shut shut, hdeaf, List.drop_length]
  · have still : ∀ d ∈ before, d.shutsDown = false := fun d hd =>
      Bool.eq_false_iff.2 fun ht => shut ⟨d, hd, ht⟩
    have hlive : ∀ c ∈ after.takeWhile (!·.shutsDown), c ≠ .listen l := fun c hc =>
      hafter c ((List.takeWhile_sublist _).subset hc)
    obtain ⟨more, hevents, hheard, -⟩ := foldl_of_ne_listen ((of before).step (.listen l)) hlive
    have hrun : of (before ++ .listen l :: after) =
        (after.takeWhile (!·.shutsDown)).foldl step ((of before).step (.listen l)) := by
      rw [of_append_of_open still]
      rfl
    have honce : ((of before).step (.listen l)).listeners.count l = 1 := by
      simp [step, hcount]
    have hstart : l.heardOf ((of before).step (.listen l)).told = [] := hdeaf
    have hsame : ((of before).step (.listen l)).events = (of before).events := rfl
    have hplain : more.flatMap (List.replicate 1) = more := List.flatMap_singleton' more
    rw [hrun, hheard, hevents, honce, hstart, hsame, List.drop_left, hplain]
    rfl

end Broadcast

namespace Session

open History

variable {o : Oracle} {settings : SessionSettings} {offered : List Adaptor} {cs : List Command}
  {s t : Session} {i : Installed} {g h new : History} {c : Command} {reply : Reply}

/-- A session and its history agree with the broadcast. -/
structure Agrees (b : Broadcast) (s : Session) (h : History) : Prop where
  targets : s.targets = replay b.events
  listeners : s.listeners = b.listeners
  told : told h = b.told

theorem Agrees.emit {b : Broadcast} (before : Agrees b s h) (i : Installed) (e : FocusEvent) :
    Agrees (b.emit e) { s with targets := s.targets.apply e }
      (h ++ news i.adaptors s.listeners e) := by
  constructor
  · rw [Broadcast.emit, replay_append, before.targets]
    rfl
  · exact before.listeners
  · rw [told_append, told_news, before.told, before.listeners]
    rfl

theorem Agrees.silent {b : Broadcast} (before : Agrees b s h) (silent : History.told new = [])
    (targets : t.targets = s.targets) (listeners : t.listeners = s.listeners) :
    Agrees b t (h ++ new) := by
  constructor
  · rw [targets, before.targets]
  · rw [listeners, before.listeners]
  · rw [told_append, silent, List.append_nil, before.told]

theorem Delivering.agrees {b : Broadcast} (hd : Delivering s i c reply new t)
    (before : Agrees b s h) : Agrees (b.step c) t (h ++ new) := by
  have hknown : ∀ t, s.targets.contains t = (heard b.events t).isSome := fun t => by
    rw [contains_eq, before.targets, lookup_replay]
  cases hd with
  | registered t handler => exact before.emit i (.added t handler)
  | unregistered known =>
    rw [hknown] at known
    rw [Broadcast.step, if_pos known]
    exact before.emit i (.removing _)
  | unknown unknown =>
    rw [hknown] at unknown
    rw [Broadcast.step, if_neg (Bool.eq_false_iff.1 unknown)]
    exact before.silent rfl rfl rfl
  | listening l =>
    constructor
    · exact before.targets
    · exact congrArg (· ++ [l]) before.listeners
    · rw [List.append_nil]
      exact before.told
  | replaced silent =>
    refine before.silent ?_ rfl rfl
    have hrest : told (closings i.adaptors) = [] := told_of_deliveries_eq_nil (deliveries_closings _)
    simp only [told_append, told_of_deliveries_eq_nil silent, told_announcements, hrest,
      List.nil_append]
    rfl
  | refused silent => exact before.silent (told_of_deliveries_eq_nil silent) rfl rfl
  | aside other aside =>
    rw [Broadcast.step_of_not_isAboutFocus other]
    exact before.silent (told_of_deliveries_eq_nil aside.silent) aside.targets aside.listeners

theorem reached_agrees (reached : Reached o settings offered cs s h) :
    Agrees (.of cs) s h := by
  refine Reached.induct (P := fun cs s h => Agrees (.of cs) s h) ?_ ?_ ?_ reached
  · intro i new _ installing
    have htold : told (new ++ introduction i) = [] := by
      apply told_of_deliveries_eq_nil
      rw [deliveries_append, installing.deliveries]
      rfl
    exact ⟨rfl, rfl, htold⟩
  · intro cs s h i c reply new t before ih live ran _
    obtain ⟨new', he, hd⟩ := (leads_delivering live c).run ran
    obtain rfl := List.append_cancel_left he
    rw [Broadcast.of_snoc_of_open ((reached_open_iff before).1 ⟨i, live⟩)]
    exact hd.agrees ih
  · intro cs s h c reply before ih gone _
    rw [Broadcast.of_append_of_shut (exists_shutsDown before gone)]
    exact ih

/-- Whatever is done with a session and whoever listens: to register a target, and to remove a known
one, is heard exactly once by the primary adaptor, by the secondary one and by every listener so far,
in this order, and to remove an unknown one is nothing. Adaptors that take over hear of all targets
in increasing order before those in place are closed, and nobody else does; if they do not take over
nobody hears anything, and so it is with every other command. In all, the listeners were told what
follows from the commands alone: a listener that was added once the events that took effect since. -/
theorem reached_broadcast (reached : Reached o settings offered cs s h) :
    (Increasing s.targets ∧ s.targets = replay (Broadcast.of cs).events ∧
      s.listeners = (Broadcast.of cs).listeners) ∧
    (∀ i, s.installed = some i → i.adaptors.Nodup ∧ ∀ c, ∃ reply new t,
      (s.perform o.environment c).run h = ((reply, t), h ++ new) ∧ Delivering s i c reply new t) ∧
    (s.installed = none → ∀ c, ∃ reply, (s.perform o.environment c).run h = ((reply, s), h)) ∧
    told h = (Broadcast.of cs).told ∧
    ∀ before l after, cs = before ++ .listen l :: after →
      (∀ c ∈ before ++ after, c ≠ .listen l) →
      l.heardOf (told h) =
        (Broadcast.of cs).events.drop (Broadcast.of before).events.length := by
  have hagrees := reached_agrees reached
  refine ⟨⟨?_, hagrees.targets, hagrees.listeners⟩, ?_, ?_, hagrees.told, ?_⟩
  · rw [hagrees.targets]
    exact increasing_replay _
  · intro i live
    refine ⟨nodup_adaptors (reached_sound reached live), fun c => ?_⟩
    obtain ⟨⟨reply, t⟩, new, ran, hd⟩ := leads_delivering (o := o) live c h
    exact ⟨reply, new, t, ran, hd⟩
  · intro gone c
    obtain ⟨reply, he, -⟩ := perform_disposed (o := o) gone c
    exact ⟨reply, congrFun he h⟩
  · rintro before l after rfl other
    rw [List.forall_mem_append] at other
    rw [hagrees.told]
    exact Broadcast.heardOf_told_of other.1 other.2

namespace Sample

def earlyListener : Listener := ⟨"early"⟩

def lateListener : Listener := ⟨"late"⟩

/-- Two listeners, one of which comes late, an unknown target and other adaptors. -/
def turns : List Command :=
  [.listen earlyListener, .register ⟨7⟩ (some ⟨1⟩), .unregister ⟨9⟩, .listen lateListener,
    .register ⟨5⟩ none, .replaceAdaptors [spare], .unregister ⟨7⟩]

end Sample

/-- Of the target that is not known and of the other adaptors no listener hears. -/
theorem reached_broadcast_turns : ∃ (s : Session) (h : History),
    Reached (Sample.host []) {} [Sample.system, Sample.methods] Sample.turns s h ∧
    s.targets = [(⟨5⟩, none)] ∧
    Sample.earlyListener.heardOf (told h) =
      [.added ⟨7⟩ (some ⟨1⟩), .added ⟨5⟩ none, .removing ⟨7⟩] ∧
    Sample.lateListener.heardOf (told h) = [.added ⟨5⟩ none, .removing ⟨7⟩] := by
  obtain ⟨g, opened⟩ := Sample.reached_opening []
  obtain ⟨s, h, reached⟩ := exists_reached opened Sample.turns
  obtain ⟨⟨-, htargets, -⟩, -, -, -, hheard⟩ := reached_broadcast reached
  refine ⟨s, h, reached, htargets, ?_, ?_⟩
  · exact hheard [] Sample.earlyListener (Sample.turns.drop 1) rfl
      (by simp [Sample.turns, Sample.earlyListener, Sample.lateListener])
  · exact hheard (Sample.turns.take 3) Sample.lateListener (Sample.turns.drop 4) rfl
      (by simp [Sample.turns, Sample.earlyListener, Sample.lateListener])

end Session

end Keyboards
