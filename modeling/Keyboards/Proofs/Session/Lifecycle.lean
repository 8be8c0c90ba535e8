import Mathlib.Data.List.TakeWhile
import Keyboards.Proofs.Session.Calls

/-! The life of an adaptor in a session, from the offer to its close. -/

namespace Keyboards

/-- Whether a command ends a session. -/
def Command.shutsDown : Command → Bool
  | .shutDown => true
  | _ => false

namespace History

variable {a : Adaptor} {as : List Adaptor} {vs : List Verdict} {xs : List Offer}

theorem calls_questions {b : Bool} (nodup : (vs.map Prod.fst).Nodup) (ha : (a, b) ∈ vs) :
    calls a (questions vs) = [⟨.isApplicable, b⟩] := by
  induction vs with
  | nil => cases ha
  | cons v vs ih =>
    rw [List.map_cons, List.nodup_cons] at nodup
    rcases List.mem_cons.1 ha with rfl | ha
    · have hrest : calls a (questions vs) = [] :=
        (asks_questions (P := fun b _ => b ∈ vs.map Prod.fst) fun _ hb => hb).calls_eq_nil
          fun _ => nodup.1
      simpa [questions] using hrest
    · have hne : v.1 ≠ a := by
        rintro rfl
        exact nodup.1 (List.mem_map.2 ⟨_, ha, rfl⟩)
      rw [questions, List.map_cons, calls_asked_other hne]
      exact ih nodup.2 ha

/-- In a round of one question everyone who is in it is asked once. -/
theorem calls_round (nodup : as.Nodup) (r : Request) (answer : r.Answer) :
    calls a (as.map fun b => .asked b r answer) = if a ∈ as then [⟨r, answer⟩] else [] := by
  induction as with
  | nil => rfl
  | cons b as ih =>
    rw [List.nodup_cons] at nodup
    rw [List.map_cons, calls_asked, ih nodup.2]
    by_cases hb : b = a
    · subst hb
      simp [nodup.1]
    · have hmem : a ∈ b :: as ↔ a ∈ as := by simp [Ne.symm hb]
      rw [if_neg hb]
      simp only [hmem]

theorem calls_closings_of_not_mem (ha : a ∉ as) : calls a (closings as) = [] :=
  (asks_closings (P := fun b _ => b ∈ as) fun _ hb => hb).calls_eq_nil fun _ => ha

theorem calls_closings (nodup : as.Nodup) (ha : a ∈ as) :
    calls a (closings as) = [⟨.close, ()⟩] := by
  rw [closings, calls_round nodup .close (), if_pos ha]

end History

namespace Session

open History Selection

variable {o : Oracle} {settings : SessionSettings} {offered handed : List Adaptor}
  {cs : List Command} {s t : Session} {i : Installed} {g h new : History} {a : Adaptor}
  {c : Command} {reply : Reply} {result : Except SessionError Installed} {x y : Option Adaptor}
  {made : List Call}

/-- The calls of an adaptor that is in place: it was asked whether it is applicable, it started, and
it did its work. -/
def Serving (calls : List Call) : Prop :=
  ∃ b body, (∀ c ∈ body, c.1.isWork = true) ∧
    calls = ⟨.isApplicable, b⟩ :: ⟨.start, .ok ()⟩ :: body

/-- The calls of an adaptor that was let go: it was not chosen, failed to start, or served. -/
inductive Finished : List Call → Prop where
  | declined (b : Bool) : Finished [⟨.isApplicable, b⟩, ⟨.close, ()⟩]
  | failed (b : Bool) (e : AdaptorError) :
      Finished [⟨.isApplicable, b⟩, ⟨.start, .error e⟩, ⟨.close, ()⟩]
  | served {calls : List Call} (serving : Serving calls) : Finished (calls ++ [⟨.close, ()⟩])

theorem Serving.append {more : List Call} (hs : Serving made)
    (work : ∀ c ∈ more, c.1.isWork = true) : Serving (made ++ more) := by
  obtain ⟨b, body, hbody, rfl⟩ := hs
  refine ⟨b, body ++ more, fun c hc => ?_, rfl⟩
  rcases List.mem_append.1 hc with hc | hc
  · exact hbody c hc
  · exact work c hc

/-- What an adaptor is called that starts or fails to. -/
theorem Starting.calls_chosen (hs : Starting (some a) y new) :
    y = some a ∧ calls a new = [⟨.start, .ok ()⟩] ∨
    y = none ∧ ∃ e, calls a new = [⟨.start, .error e⟩, ⟨.close, ()⟩] := by
  cases hs with
  | started => exact .inl ⟨rfl, by simp⟩
  | failed _ e => exact .inr ⟨rfl, e, by simp⟩

theorem Starting.calls_other (hs : Starting x y new) (ha : x ≠ some a) : calls a new = [] :=
  hs.asks.calls_eq_nil fun _ hr => ha hr.1

/-- An adaptor that was offered once has dropped out or has one of the two places. -/
theorem dropped_or_placed {vs : List Verdict} (nodup : (vs.map Prod.fst).Nodup)
    (ha : a ∈ vs.map Prod.fst) :
    (ofVerdicts vs).unused.Nodup ∧
    (a ∈ (ofVerdicts vs).unused ∧ (ofVerdicts vs).primary ≠ some a ∧
        (ofVerdicts vs).secondary ≠ some a ∨
      a ∉ (ofVerdicts vs).unused ∧ (ofVerdicts vs).primary = some a ∧
        (ofVerdicts vs).secondary ≠ some a ∨
      a ∉ (ofVerdicts vs).unused ∧ (ofVerdicts vs).primary ≠ some a ∧
        (ofVerdicts vs).secondary = some a) := by
  have hmem := (all_ofVerdicts vs).mem_iff.2 ha
  have hnodup := (all_ofVerdicts vs).nodup_iff.2 nodup
  simp only [all, List.mem_append, Option.mem_toList] at hmem
  have hplaced := List.disjoint_of_nodup_append hnodup
  have hboth := List.disjoint_of_nodup_append hnodup.of_append_right
  refine ⟨hnodup.of_append_left, ?_⟩
  by_cases hunused : a ∈ (ofVerdicts vs).unused
  · have hp := hplaced hunused
    simp only [List.mem_append, Option.mem_toList] at hp
    exact .inl ⟨hunused, not_or.1 hp⟩
  · by_cases hprimary : (ofVerdicts vs).primary = some a
    · refine .inr (.inl ⟨hunused, hprimary, fun hsecondary => ?_⟩)
      exact hboth (Option.mem_toList.2 hprimary) (Option.mem_toList.2 hsecondary)
    · simp only [hunused, hprimary, false_or] at hmem
      exact .inr (.inr ⟨hunused, hprimary, hmem⟩)

theorem Starting.not_mem (hs : Starting x y new) (ha : x ≠ some a) : a ∉ y.toList := by
  rw [Option.mem_toList]
  rintro rfl
  exact ha hs.eq_some.1

theorem serving_started (b : Bool) : Serving [⟨.isApplicable, b⟩, ⟨.start, .ok ()⟩] :=
  ⟨b, [], by simp, rfl⟩

/-- Of an offer that is refused no adaptor stays. -/
theorem Installing.finished {e : SessionError} (hi : Installing offered (.error e) new)
    (nodup : offered.Nodup) (ha : a ∈ offered) : Finished (calls a new) := by
  cases hi with
  | refused judged one two =>
    rename_i vs secondary first second
    subst judged
    obtain ⟨⟨_, b⟩, hb, rfl⟩ := List.mem_map.1 ha
    obtain ⟨hnodup, ⟨hu, hp, hs⟩ | ⟨hu, hp, hs⟩ | ⟨hu, hp, hs⟩⟩ := dropped_or_placed nodup ha
    all_goals simp only [calls_append, calls_questions nodup hb]
    · rw [calls_closings hnodup hu, one.calls_other hp, two.calls_other hs,
        calls_closings_of_not_mem (two.not_mem hs)]
      exact .declined b
    · rw [hp] at one
      rw [calls_closings_of_not_mem hu, two.calls_other hs,
        calls_closings_of_not_mem (two.not_mem hs)]
      obtain ⟨hnone, -⟩ | ⟨-, e, he⟩ := one.calls_chosen
      · cases hnone
      · rw [he]
        exact .failed b e
    · rw [hs] at two
      rw [calls_closings_of_not_mem hu, one.calls_other hp]
      obtain ⟨rfl, he⟩ | ⟨rfl, e, he⟩ := two.calls_chosen
      · rw [he, calls_closings (by simp) (by simp)]
        exact .served (serving_started b)
      · rw [he]
        exact .failed b e

theorem asks_work_enumerations (xs : List Offer) :
    Asks (fun _ r => r.isWork = true) (enumerations xs) := asks_enumerations fun _ _ => rfl

/-- Of an offer that is taken up the adaptors in place serve, and the others do not stay. -/
theorem Installing.serving_or_finished (hi : Installing offered (.ok i) new)
    (nodup : offered.Nodup) (ha : a ∈ offered) :
    (a ∈ i.adaptors ∧ Serving (calls a new)) ∨ (a ∉ i.adaptors ∧ Finished (calls a new)) := by
  cases hi with
  | installed judged one two listed =>
    rename_i vs primary secondary first second offers
    subst judged
    obtain ⟨⟨_, b⟩, hb, rfl⟩ := List.mem_map.1 ha
    rename_i a
    have hlisted : a ∉ primary :: secondary.toList → calls a (enumerations offers) = [] :=
      fun hn => (asks_enumerations (P := fun b _ => b ∈ primary :: secondary.toList)
        fun _ hb => listed ▸ hb).calls_eq_nil fun _ => hn
    have hwork : ∀ c ∈ calls a (enumerations offers), c.1.isWork = true := fun c hc =>
      (asks_work_enumerations offers).of_mem_calls hc
    obtain ⟨hnodup, ⟨hu, hp, hs⟩ | ⟨hu, hp, hs⟩ | ⟨hu, hp, hs⟩⟩ := dropped_or_placed nodup ha
    all_goals simp only [calls_append, calls_questions nodup hb, Installed.adaptors]
    · have hout : a ∉ primary :: secondary.toList := by
        rw [List.mem_cons, not_or]
        refine ⟨?_, two.not_mem hs⟩
        rintro rfl
        exact hp one.eq_some.1
      rw [calls_closings hnodup hu, one.calls_other hp, two.calls_other hs, hlisted hout]
      exact .inr ⟨hout, .declined b⟩
    · rw [hp] at one
      obtain ⟨hprimary, he⟩ | ⟨hnone, -⟩ := one.calls_chosen
      · cases hprimary
        rw [calls_closings_of_not_mem hu, two.calls_other hs, he]
        exact .inl ⟨List.mem_cons_self, (serving_started b).append hwork⟩
      · cases hnone
    · rw [hs] at two
      rw [calls_closings_of_not_mem hu, one.calls_other hp]
      obtain ⟨rfl, he⟩ | ⟨rfl, e, he⟩ := two.calls_chosen
      · rw [he]
        exact .inl ⟨by simp, (serving_started b).append hwork⟩
      · have hout : a ∉ primary :: (none : Option Adaptor).toList := by
          simp only [Option.toList_none, List.mem_singleton]
          rintro rfl
          exact hp one.eq_some.1
        rw [he, hlisted hout]
        exact .inr ⟨hout, .failed b e⟩

/-- Where the adaptors that were handed over stand: those in place serve, the others were let go,
and nobody else was asked for anything. -/
structure Orderly (handed : List Adaptor) (s : Session) (h : History) : Prop where
  serving : ∀ i, s.installed = some i → ∀ a ∈ i.adaptors, a ∈ handed ∧ Serving (calls a h)
  finished : ∀ a ∈ handed, (∀ i, s.installed = some i → a ∉ i.adaptors) → Finished (calls a h)
  strangers : ∀ a, a ∉ handed → calls a h = []

/-- Work at the adaptors in place keeps the order. -/
theorem Orderly.work {j : Installed} (before : Orderly handed s g) (live : s.installed = some i)
    (after : t.installed = some j) (same : j.adaptors = i.adaptors)
    (asks : Asks (Working i.adaptors) new) : Orderly handed t (g ++ new) := by
  have hother : ∀ a, a ∉ i.adaptors → calls a new = [] := fun a ha =>
    asks.calls_eq_nil fun _ hr => ha hr.1
  constructor
  · intro k hk a ha
    cases after.symm.trans hk
    rw [same] at ha
    obtain ⟨hmem, hserving⟩ := before.serving i live a ha
    rw [calls_append]
    exact ⟨hmem, hserving.append fun c hc => (asks.of_mem_calls hc).2⟩
  · intro a ha hout
    have hi : a ∉ i.adaptors := same ▸ hout j after
    rw [calls_append, hother a hi, List.append_nil]
    refine before.finished a ha fun k hk => ?_
    cases live.symm.trans hk
    exact hi
  · intro a ha
    have hi : a ∉ i.adaptors := fun hi => ha (before.serving i live a hi).1
    rw [calls_append, hother a hi, before.strangers a ha, List.append_nil]

/-- A refused offer keeps the order. -/
theorem Orderly.refusal {e : SessionError} (before : Orderly handed s g)
    (hi : Installing offered (.error e) new) (nodup : offered.Nodup)
    (unknown : ∀ a ∈ offered, a ∉ handed) : Orderly (handed ++ offered) s (g ++ new) := by
  have hother : ∀ a, a ∉ offered → calls a new = [] := fun a ha =>
    hi.asks.calls_eq_nil fun _ hr => ha hr.1
  constructor
  · intro i live a ha
    obtain ⟨hmem, hserving⟩ := before.serving i live a ha
    rw [calls_append, hother a fun hoff => unknown a hoff hmem, List.append_nil]
    exact ⟨List.mem_append_left _ hmem, hserving⟩
  · intro a ha hout
    rw [calls_append]
    by_cases hoff : a ∈ offered
    · rw [before.strangers a (unknown a hoff), List.nil_append]
      exact hi.finished nodup hoff
    · rw [hother a hoff, List.append_nil]
      exact before.finished a ((List.mem_append.1 ha).resolve_right hoff) hout
  · intro a ha
    rw [List.mem_append, not_or] at ha
    rw [calls_append, before.strangers a ha.1, hother a ha.2, List.append_nil]

theorem nodup_adaptors (hs : i.Sound) : i.adaptors.Nodup := by
  rw [Installed.adaptors, List.nodup_cons]
  constructor
  · rw [Option.mem_toList]
    intro h
    have hcategory := hs.secondary _ h
    rw [hs.primary] at hcategory
    cases hcategory
  · cases i.secondary <;> simp

/-- Shutting down keeps the order. -/
theorem Orderly.shutDown (before : Orderly handed s g) (live : s.installed = some i)
    (hs : i.Sound) : Orderly handed { s with installed := none } (g ++ closings i.adaptors) := by
  constructor
  · intro k hk
    cases hk
  · intro a ha _
    rw [calls_append]
    by_cases hi : a ∈ i.adaptors
    · rw [calls_closings (nodup_adaptors hs) hi]
      exact .served (before.serving i live a hi).2
    · rw [calls_closings_of_not_mem hi, List.append_nil]
      refine before.finished a ha fun k hk => ?_
      cases live.symm.trans hk
      exact hi
  · intro a ha
    have hi : a ∉ i.adaptors := fun hi => ha (before.serving i live a hi).1
    rw [calls_append, calls_closings_of_not_mem hi, before.strangers a ha, List.append_nil]

theorem calls_introduction (i : Installed) : calls a (introduction i) = [] := rfl

/-- Taking up an offer keeps the order. -/
theorem Orderly.replacement {j : Installed} (before : Orderly handed s g)
    (live : s.installed = some i) (hs : i.Sound) (hi : Installing offered (.ok j) new)
    (nodup : offered.Nodup) (unknown : ∀ a ∈ offered, a ∉ handed) (targets : FocusTargets) :
    Orderly (handed ++ offered) (s.withInstalled j) (g ++ (new ++
      (announcements targets j.adaptors ++ (closings i.adaptors ++ introduction j)))) := by
  have hother : ∀ a, a ∉ offered → calls a new = [] := fun a ha =>
    hi.asks.calls_eq_nil fun _ hr => ha hr.1
  have hasks : Asks (Working j.adaptors) (announcements targets j.adaptors) :=
    asks_announcements fun a ha _ => ⟨ha, rfl⟩
  have hquiet : ∀ a, a ∉ j.adaptors → calls a (announcements targets j.adaptors) = [] := fun a ha =>
    hasks.calls_eq_nil fun _ hr => ha hr.1
  have hold : ∀ a ∈ i.adaptors, a ∈ handed := fun a ha => (before.serving i live a ha).1
  constructor
  · rintro _ ⟨⟩ a ha
    have hoff := hi.mem_of_mem_adaptors ha
    obtain ⟨-, hserving⟩ | ⟨hout, -⟩ := hi.serving_or_finished nodup hoff
    · simp only [calls_append, before.strangers a (unknown a hoff), calls_introduction,
        calls_closings_of_not_mem fun h => unknown a hoff (hold a h), List.nil_append,
        List.append_nil]
      exact ⟨List.mem_append_right _ hoff,
        hserving.append fun c hc => (hasks.of_mem_calls hc).2⟩
    · exact (hout ha).elim
  · intro a ha hout
    have hj : a ∉ j.adaptors := hout j rfl
    simp only [calls_append, hquiet a hj, calls_introduction, List.nil_append, List.append_nil]
    by_cases hoff : a ∈ offered
    · obtain ⟨hin, -⟩ | ⟨-, hfinished⟩ := hi.serving_or_finished nodup hoff
      · exact (hj hin).elim
      · rw [before.strangers a (unknown a hoff),
          calls_closings_of_not_mem fun h => unknown a hoff (hold a h), List.nil_append,
          List.append_nil]
        exact hfinished
    · rw [hother a hoff, List.nil_append]
      by_cases hin : a ∈ i.adaptors
      · rw [calls_closings (nodup_adaptors hs) hin]
        exact .served (before.serving i live a hin).2
      · rw [calls_closings_of_not_mem hin, List.append_nil]
        refine before.finished a ((List.mem_append.1 ha).resolve_right hoff) fun k hk => ?_
        cases live.symm.trans hk
        exact hin
  · intro a ha
    rw [List.mem_append, not_or] at ha
    have hj : a ∉ j.adaptors := fun h => ha.2 (hi.mem_of_mem_adaptors h)
    simp only [calls_append, before.strangers a ha.1, hother a ha.2, hquiet a hj,
      calls_introduction, calls_closings_of_not_mem fun h => ha.1 (hold a h), List.append_nil]

/-- The opening of a session puts the adaptors in order. -/
theorem orderly_opened (hi : Installing offered (.ok i) new) (nodup : offered.Nodup) :
    Orderly offered (fresh settings i) (new ++ introduction i) := by
  constructor
  · rintro _ ⟨⟩ a ha
    have hoff := hi.mem_of_mem_adaptors ha
    rw [calls_append, calls_introduction, List.append_nil]
    obtain ⟨-, hserving⟩ | ⟨hout, -⟩ := hi.serving_or_finished nodup hoff
    · exact ⟨hoff, hserving⟩
    · exact (hout ha).elim
  · intro a ha hout
    rw [calls_append, calls_introduction, List.append_nil]
    obtain ⟨hin, -⟩ | ⟨-, hfinished⟩ := hi.serving_or_finished nodup ha
    · exact (hout i rfl hin).elim
    · exact hfinished
  · intro a ha
    rw [calls_append, calls_introduction, List.append_nil]
    exact hi.asks.calls_eq_nil fun _ hr => ha hr.1

/-- Every command keeps the order, with the adaptors that it hands over. -/
theorem Performed.orderly (hp : Performed s c reply new t) (before : Orderly handed s g)
    (live : s.installed = some i) (hs : i.Sound) (nodup : c.offers.Nodup)
    (unknown : ∀ a ∈ c.offers, a ∉ handed) : Orderly (handed ++ c.offers) t (g ++ new) := by
  cases hp with
  | steps plain path =>
    obtain ⟨k, hk, -⟩ := path.frame live
    have hnone : c.offers = [] := by cases c <;> first | rfl | cases plain
    rw [hnone, List.append_nil]
    exact before.work live hk rfl (path.asks live)
  | refusal _ installing => exact before.refusal installing nodup unknown
  | replacement live' installing =>
    cases live.symm.trans live'
    exact before.replacement live hs installing nodup unknown s.targets
  | refresh live' listed =>
    cases live.symm.trans live'
    rw [show Command.refresh.offers = [] from rfl, List.append_nil]
    exact before.work live rfl rfl (asks_enumerations fun a ha => ⟨listed ▸ ha, rfl⟩)
  | shutDown live' =>
    cases live.symm.trans live'
    rw [show Command.shutDown.offers = [] from rfl, List.append_nil]
    exact before.shutDown live hs

/-- The adaptors that a session still open got from commands. -/
def takenOver (cs : List Command) : List Adaptor :=
  (cs.takeWhile (!·.shutsDown)).flatMap Command.offers

/-- The adaptors that came after the session was shut down. -/
def tooLate (cs : List Command) : List Adaptor :=
  (cs.dropWhile (!·.shutsDown)).flatMap Command.offers

theorem supplied_eq (offered : List Adaptor) (cs : List Command) :
    supplied offered cs = offered ++ takenOver cs ++ tooLate cs := by
  rw [supplied, takenOver, tooLate, List.append_assoc, ← List.flatMap_append,
    List.takeWhile_append_dropWhile]

theorem takenOver_snoc_of_open (still : ∀ c ∈ cs, c.shutsDown = false) (c : Command) :
    takenOver (cs ++ [c]) = takenOver cs ++ c.offers := by
  have hall : ∀ c ∈ cs, (!c.shutsDown) = true := fun c hc => by rw [still c hc]; rfl
  have hself : cs.takeWhile (!·.shutsDown) = cs := List.takeWhile_eq_self_iff.2 hall
  rw [takenOver, takenOver, List.takeWhile_append_of_pos hall, hself, List.flatMap_append]
  cases c <;> simp [Command.shutsDown, Command.offers]

theorem takenOver_snoc_of_shut (shut : ∃ c ∈ cs, c.shutsDown = true) (c : Command) :
    takenOver (cs ++ [c]) = takenOver cs := by
  induction cs with
  | nil =>
    obtain ⟨_, hc, -⟩ := shut
    cases hc
  | cons d cs ih =>
    cases hd : d.shutsDown with
    | true => simp [takenOver, hd]
    | false =>
      have htail : ∃ c ∈ cs, c.shutsDown = true := by simpa [hd] using shut
      simpa [takenOver, hd] using ih htail

/-- A session is open until it is shut down. -/
theorem reached_open_iff (reached : Reached o settings offered cs s h) :
    (∃ i, s.installed = some i) ↔ ∀ c ∈ cs, c.shutsDown = false := by
  refine Reached.induct (P := fun cs s _ => (∃ i, s.installed = some i) ↔
    ∀ c ∈ cs, c.shutsDown = false) ?_ ?_ ?_ reached
  · intro i _ _ _
    simp [fresh]
  · intro cs s h i c reply new t _ ih live _ hperf
    have hcs := ih.1 ⟨i, live⟩
    have hc : (∃ j, t.installed = some j) ↔ c.shutsDown = false := by
      cases hperf with
      | steps plain path =>
        refine iff_of_true (path.live ⟨i, live⟩) ?_
        cases c <;> first | rfl | cases plain
      | refusal live' => exact iff_of_true ⟨_, live'⟩ rfl
      | replacement | refresh => exact iff_of_true ⟨_, rfl⟩ rfl
      | shutDown => simp [Command.shutsDown]
    rw [hc, List.forall_mem_append, List.forall_mem_singleton]
    exact ⟨fun h => ⟨hcs, h⟩, fun h => h.2⟩
  · intro cs s h c reply _ ih gone _
    have hclosed : ¬ ∃ i, s.installed = some i := by
      rintro ⟨i, live⟩
      cases gone.symm.trans live
    refine iff_of_false hclosed fun hall => hclosed (ih.2 fun d hd => ?_)
    exact hall d (List.mem_append_left _ hd)

/-- Only a shutdown takes the adaptors away for good. -/
theorem exists_shutsDown (reached : Reached o settings offered cs s h)
    (gone : s.installed = none) : ∃ c ∈ cs, c.shutsDown = true := by
  by_contra hn
  have hall : ∀ c ∈ cs, c.shutsDown = false := fun c hc =>
    Bool.eq_false_iff.2 fun ht => hn ⟨c, hc, ht⟩
  obtain ⟨i, live⟩ := (reached_open_iff reached).2 hall
  cases gone.symm.trans live

theorem reached_orderly (reached : Reached o settings offered cs s h)
    (owned : (supplied offered cs).Nodup) : Orderly (offered ++ takenOver cs) s h := by
  refine Reached.induct (P := fun cs s h => (supplied offered cs).Nodup →
    Orderly (offered ++ takenOver cs) s h) ?_ ?_ ?_ reached owned
  · intro i new _ installing owned
    have ho : Orderly offered (fresh settings i) _ :=
      orderly_opened installing (by simpa [supplied] using owned)
    simpa [takenOver] using ho
  · intro cs s h i c reply new t before ih live _ hperf owned
    rw [supplied_snoc] at owned
    have hopen := (reached_open_iff before).1 ⟨i, live⟩
    rw [takenOver_snoc_of_open hopen, ← List.append_assoc]
    refine hperf.orderly (ih owned.of_append_left) live (reached_sound before live)
      owned.of_append_right fun a ha hmem => ?_
    refine List.disjoint_of_nodup_append owned ?_ ha
    rw [supplied_eq]
    exact List.mem_append_left _ hmem
  · intro cs s h c reply before ih gone _ owned
    rw [supplied_snoc] at owned
    rw [takenOver_snoc_of_shut (exists_shutsDown before gone)]
    exact ih owned.of_append_left

/-- What an adaptor can rely on: it is closed once and not called again, it is started once at most,
and it has work to do only after it started and before it is closed. -/
structure Disciplined (calls : List Call) : Prop where
  closed_once : calls.countP (·.1 = .close) = 1
  closed_last : ∃ before, calls = before ++ [⟨.close, ()⟩]
  started_once : calls.countP (·.1 = .start) ≤ 1
  used_between : ∀ before c after, calls = before ++ c :: after → c.1.isWork = true →
    ⟨.start, .ok ()⟩ ∈ before ∧ ⟨.close, ()⟩ ∈ after

theorem countP_work {body : List Call} {r : Request} (work : ∀ c ∈ body, c.1.isWork = true)
    (hr : r.isWork = false) : body.countP (·.1 = r) = 0 := by
  rw [List.countP_eq_zero]
  intro c hc he
  have hw := work c hc
  rw [of_decide_eq_true he, hr] at hw
  cases hw

theorem Serving.disciplined (hs : Serving made) : Disciplined (made ++ [⟨.close, ()⟩]) := by
  obtain ⟨b, body, work, rfl⟩ := hs
  refine ⟨?_, ⟨_, rfl⟩, ?_, ?_⟩
  · rw [List.countP_append, List.countP_cons, List.countP_cons, countP_work work rfl]
    rfl
  · rw [List.countP_append, List.countP_cons, List.countP_cons, countP_work work rfl]
    exact Nat.le_refl 1
  · intro before c after he hw
    rcases List.eq_nil_or_concat after with rfl | ⟨after, z, rfl⟩
    · obtain ⟨-, hc⟩ := List.append_inj' he rfl
      cases hc
      cases hw
    · rw [List.concat_eq_append, ← List.cons_append, ← List.append_assoc] at he
      obtain ⟨hbody, hz⟩ := List.append_inj' he rfl
      cases hz
      refine ⟨?_, by simp⟩
      rcases before with _ | ⟨p, _ | ⟨q, before⟩⟩
      · cases hbody
        cases hw
      · cases hbody
        cases hw
      · cases hbody
        simp

/-- Where there is no work, it is not out of place. -/
theorem Disciplined.of_idle (once : made.countP (·.1 = .close) = 1)
    (last : ∃ before, made = before ++ [⟨.close, ()⟩])
    (start : made.countP (·.1 = .start) ≤ 1) (idle : ∀ c ∈ made, c.1.isWork = false) :
    Disciplined made := by
  refine ⟨once, last, start, ?_⟩
  intro before c after he hw
  rw [idle c (by simp [he])] at hw
  cases hw

theorem Finished.disciplined (hf : Finished made) : Disciplined made := by
  cases hf with
  | declined b => exact .of_idle rfl ⟨[_], rfl⟩ (Nat.zero_le 1) (by simp [Request.isWork])
  | failed b e => exact .of_idle rfl ⟨[_, _], rfl⟩ (Nat.le_refl 1) (by simp [Request.isWork])
  | served serving => exact serving.disciplined

/-- The whole life of a session: it is opened, carries commands out and is dropped. -/
def life {m : Type → Type} [Monad m] (env : Environment m) (settings : SessionSettings)
    (offered : List Adaptor) (cs : List Command) : m (Except SessionError (List Reply)) := do
  match ← start env settings offered with
  | .error e => pure (.error e)
  | .ok s => do
    let (replies, s) ← s.run env cs
    let _ ← s.shutDown env
    pure (.ok replies)

theorem run_life (o : Oracle) (settings : SessionSettings) (offered : List Adaptor)
    (cs : List Command) : (life o.environment settings offered cs).run [] =
      match (start o.environment settings offered).run [] with
      | (.error e, g) => (.error e, g)
      | (.ok s, g) =>
        let p := (s.run o.environment cs).run g
        (.ok p.1.1, ((p.1.2.shutDown o.environment).run p.2).2) := by
  rw [life, StateT.run_bind]
  rcases (start o.environment settings offered).run [] with ⟨_ | s, g⟩ <;> rfl

/-- The life of a session that was opened is a run with a shutdown at its end. -/
theorem reached_of_life {replies : List Reply}
    (ran : (life o.environment settings offered cs).run [] = (.ok replies, h)) :
    ∃ t, Reached o settings offered (cs ++ [.shutDown]) t h := by
  rw [run_life] at ran
  cases hstart : (start o.environment settings offered).run [] with
  | mk opened g =>
    rw [hstart] at ran
    cases opened with
    | error e => cases ran
    | ok s =>
      cases ran
      exact ⟨_, reached_snoc.2 ⟨_, _, _, ⟨s, g, _, hstart, rfl⟩, rfl⟩⟩

theorem opening_of_life {e : SessionError}
    (ran : (life o.environment settings offered cs).run [] = (.error e, h)) :
    Opening settings offered (.error e) h := by
  rw [run_life] at ran
  cases hstart : (start o.environment settings offered).run [] with
  | mk opened g =>
    rw [hstart] at ran
    cases opened with
    | error e =>
      cases ran
      obtain ⟨new, rfl, opening⟩ := (leads_start settings offered).run hstart
      exact opening
    | ok s => cases ran

/-- In the whole life of a session every adaptor that it got while it was open is treated with
discipline, and one that it got later is not called at all. -/
theorem life_disciplined {result : Except SessionError (List Reply)}
    (owned : (supplied offered cs).Nodup)
    (ran : (life o.environment settings offered cs).run [] = (result, h)) :
    (∀ e, result = .error e → ∀ a ∈ offered, Disciplined (calls a h)) ∧
    (∀ replies, result = .ok replies →
      (∀ a ∈ offered ++ takenOver cs, Disciplined (calls a h)) ∧
      ∀ a ∈ tooLate cs, calls a h = []) := by
  constructor
  · rintro e rfl a ha
    cases opening_of_life ran with
    | refused installing =>
      have hnodup : offered.Nodup := owned.of_append_left
      have hrest : calls a [.reported (.event
          ("Keyboard controller failed to initialize: " ++ e.message))] = [] := rfl
      rw [calls_append, hrest, List.append_nil]
      exact (installing.finished hnodup ha).disciplined
  · rintro replies rfl
    obtain ⟨t, reached⟩ := reached_of_life ran
    have hsame : supplied offered (cs ++ [.shutDown]) = supplied offered cs := by
      rw [supplied_snoc]
      exact List.append_nil _
    have horderly := reached_orderly reached (hsame ▸ owned)
    have hgone : ∀ i, t.installed ≠ some i := fun i live => by
      have hopen := (reached_open_iff reached).1 ⟨i, live⟩ .shutDown (by simp)
      cases hopen
    have hover : takenOver (cs ++ [.shutDown]) = takenOver cs := by
      by_cases hshut : ∃ c ∈ cs, c.shutsDown = true
      · exact takenOver_snoc_of_shut hshut _
      · rw [takenOver_snoc_of_open fun c hc => Bool.eq_false_iff.2 fun ht => hshut ⟨c, hc, ht⟩]
        exact List.append_nil _
    rw [hover] at horderly
    constructor
    · intro a ha
      exact (horderly.finished a ha fun i live => (hgone i live).elim).disciplined
    · intro a ha
      rw [supplied_eq] at owned
      exact horderly.strangers a fun hmem => List.disjoint_of_nodup_append owned hmem ha

/-- Another primary adaptor. -/
def spare : Adaptor := ⟨2, "spare", .primary⟩

/-- An adaptor that comes too late. -/
def belated : Adaptor := ⟨3, "belated", .primary⟩

/-- A life in which the adaptors are replaced before a shutdown, and offered again after it. -/
theorem life_disciplined_replaced : ∃ (replies : List Reply) (h : History),
    (life (Sample.host []).environment {} [Sample.system, Sample.methods]
      [.replaceAdaptors [spare], .shutDown, .replaceAdaptors [belated]]).run [] =
        (.ok replies, h) ∧
    Disciplined (calls Sample.system h) ∧ Disciplined (calls Sample.methods h) ∧
    Disciplined (calls spare h) ∧ calls belated h = [] := by
  obtain ⟨replies, h, ran⟩ : ∃ (replies : List Reply) (h : History),
      (life (Sample.host []).environment {} [Sample.system, Sample.methods]
        [.replaceAdaptors [spare], .shutDown, .replaceAdaptors [belated]]).run [] =
          (.ok replies, h) := by
    obtain ⟨g, opened⟩ := Sample.reached_opening []
    rw [run_life, reached_nil.1 opened]
    exact ⟨_, _, rfl⟩
  obtain ⟨taken, late⟩ := (life_disciplined (by decide) ran).2 replies rfl
  exact ⟨replies, h, ran, taken _ (by decide), taken _ (by decide), taken _ (by decide),
    late _ (by decide)⟩

end Session

end Keyboards
