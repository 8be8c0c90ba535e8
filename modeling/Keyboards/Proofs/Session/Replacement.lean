import Keyboards.Proofs.Session.Calls

/-! An offer of adaptors is taken up as a whole or leaves everything as it was. -/

namespace Keyboards

namespace History

variable {g h : History}

/-- What the adaptors said when they were asked whether they are applicable. -/
def verdicts (h : History) : List Verdict :=
  h.filterMap fun
    | .asked a .isApplicable answer => some (a, answer)
    | _ => none

/-- The adaptors that were asked to start, with the answers. -/
def starts (h : History) : List (Adaptor × Except AdaptorError Unit) :=
  h.filterMap fun
    | .asked a .start answer => some (a, answer)
    | _ => none

@[simp] theorem verdicts_append : verdicts (g ++ h) = verdicts g ++ verdicts h :=
  List.filterMap_append

@[simp] theorem verdicts_questions (vs : List Verdict) : verdicts (questions vs) = vs := by
  induction vs with
  | nil => rfl
  | cons v vs ih => exact congrArg (v :: ·) ih

@[simp] theorem verdicts_closings (as : List Adaptor) : verdicts (closings as) = [] := by
  simp [verdicts, closings]

@[simp] theorem verdicts_enumerations (xs : List Offer) : verdicts (enumerations xs) = [] := by
  simp [verdicts, enumerations]

@[simp] theorem verdicts_announcements (targets : FocusTargets) (as : List Adaptor) :
    verdicts (announcements targets as) = [] := by
  simp [verdicts, announcements, List.filterMap_flatMap]

@[simp] theorem verdicts_introduction (i : Installed) : verdicts (introduction i) = [] := rfl

@[simp] theorem starts_append : starts (g ++ h) = starts g ++ starts h := List.filterMap_append

@[simp] theorem starts_questions (vs : List Verdict) : starts (questions vs) = [] := by
  simp [starts, questions]

@[simp] theorem starts_closings (as : List Adaptor) : starts (closings as) = [] := by
  simp [starts, closings]

@[simp] theorem starts_enumerations (xs : List Offer) : starts (enumerations xs) = [] := by
  simp [starts, enumerations]

@[simp] theorem starts_announcements (targets : FocusTargets) (as : List Adaptor) :
    starts (announcements targets as) = [] := by
  simp [starts, announcements, List.filterMap_flatMap]

@[simp] theorem starts_introduction (i : Installed) : starts (introduction i) = [] := rfl

@[simp] theorem journal_questions (vs : List Verdict) : journal (questions vs) = [] := by
  simp [journal, questions]

@[simp] theorem journal_closings (as : List Adaptor) : journal (closings as) = [] := by
  simp [journal, closings]

@[simp] theorem journal_enumerations (xs : List Offer) : journal (enumerations xs) = [] := by
  simp [journal, enumerations]

@[simp] theorem journal_announcements (targets : FocusTargets) (as : List Adaptor) :
    journal (announcements targets as) = [] := by
  simp [journal, announcements, List.filterMap_flatMap]

end History

namespace Session

open History Selection

variable {o : Oracle} {settings : SessionSettings} {offered : List Adaptor} {s : Session}
  {i old : Installed} {h new : History} {x y : Option Adaptor}
  {result : Except SessionError Installed}

theorem Starting.verdicts (hs : Starting x y new) : verdicts new = [] := by
  cases hs <;> rfl

theorem Starting.journal (hs : Starting x y new) : journal new = [] := by
  cases hs <;> rfl

theorem Starting.tried (hs : Starting x y new) : (starts new).map Prod.fst = x.toList := by
  cases hs <;> rfl

/-- An adaptor is up exactly if it answered that it started. -/
theorem Starting.up_iff (hs : Starting x y new) {a : Adaptor} :
    y = some a ↔ (a, .ok ()) ∈ starts new := by
  cases hs <;> simp [starts, eq_comm]

/-- How an offer is decided: all adaptors are asked whether they are applicable, of each category
only the last applicable one is tried, and the primary one has to start. -/
structure Decided (offered : List Adaptor) (success : Prop) (new : History) : Prop where
  judged : (verdicts new).map Prod.fst = offered
  tried : (starts new).map Prod.fst = (lastApplicable .primary (verdicts new)).toList ++
    (lastApplicable .secondary (verdicts new)).toList
  decided : success ↔
    ∃ a, lastApplicable .primary (verdicts new) = some a ∧ (a, .ok ()) ∈ starts new

/-- Who is installed: the last applicable adaptor of each category, the secondary one if it started.
No keyboard is in use. -/
structure Seated (i : Installed) (new : History) : Prop where
  primary : lastApplicable .primary (verdicts new) = some i.primary
  secondary : ∀ a, i.secondary = some a ↔
    lastApplicable .secondary (verdicts new) = some a ∧ (a, .ok ()) ∈ starts new
  idle : i.active = .zero

theorem Decided.congr {p q : Prop} (h : Decided offered p new) (hpq : p ↔ q) :
    Decided offered q new := ⟨h.judged, h.tried, hpq.symm.trans h.decided⟩

/-- Of two starts the one that an adaptor had is that of its own category. -/
theorem Starting.up_iff_of_other {vs : List Verdict} {c d : Category} {first second : History}
    (hcd : c ≠ d) (one : Starting (lastApplicable c vs) x first)
    (two : Starting (lastApplicable d vs) y second) {a : Adaptor} :
    x = some a ↔ lastApplicable c vs = some a ∧
      ((a, .ok ()) ∈ starts first ∨ (a, .ok ()) ∈ starts second) := by
  constructor
  · rintro rfl
    exact ⟨one.eq_some.1, .inl (one.up_iff.1 rfl)⟩
  · rintro ⟨hc, hup | hup⟩
    · exact one.up_iff.2 hup
    · have hy : y = some a := two.up_iff.2 hup
      subst hy
      have hd := (lastApplicable_mem two.eq_some.1).2
      exact (hcd ((lastApplicable_mem hc).2.symm.trans hd)).elim

theorem Installing.decided (hi : Installing offered result new) :
    Decided offered (∃ i, result = .ok i) new := by
  cases hi with
  | refused judged one two =>
    rw [primary_ofVerdicts] at one
    rw [secondary_ofVerdicts] at two
    constructor
    · simpa [one.verdicts, two.verdicts] using judged
    · simp [one.verdicts, two.verdicts, one.tried, two.tried]
    · have hup := fun a => one.up_iff_of_other (a := a) (by decide) two
      simpa [one.verdicts, two.verdicts] using hup
  | installed judged one two listed =>
    rw [primary_ofVerdicts] at one
    rw [secondary_ofVerdicts] at two
    constructor
    · simpa [one.verdicts, two.verdicts] using judged
    · simp [one.verdicts, two.verdicts, one.tried, two.tried]
    · have hup := (one.up_iff_of_other (by decide) two).1 rfl
      simpa [one.verdicts, two.verdicts] using ⟨_, hup⟩

theorem Installing.seated (hi : Installing offered (.ok i) new) : Seated i new := by
  cases hi with
  | installed judged one two listed =>
    rw [primary_ofVerdicts] at one
    rw [secondary_ofVerdicts] at two
    refine ⟨?_, fun a => ?_, rfl⟩
    · simpa [one.verdicts, two.verdicts] using one.eq_some.1
    · rw [two.up_iff_of_other (by decide) one]
      simp [one.verdicts, two.verdicts, or_comm]

theorem Installing.journal (hi : Installing offered result new) : journal new = [] := by
  cases hi with
  | refused judged one two => simp [one.journal, two.journal]
  | installed judged one two listed => simp [one.journal, two.journal]

theorem Installing.mem_close {e : SessionError} (hi : Installing offered (.error e) new)
    {a : Adaptor} (ha : a ∈ offered) : .asked a .close () ∈ new := by
  cases hi with
  | refused judged one two =>
    rename_i vs secondary first second
    have hall : a ∈ (ofVerdicts vs).all := by
      rw [(all_ofVerdicts vs).mem_iff, judged]
      exact ha
    simp only [all, List.mem_append, Option.mem_toList] at hall
    simp only [List.mem_append]
    -- It was not chosen, or it failed to start, or it started in vain.
    rcases hall with hunused | hprimary | hsecondary
    · exact .inr (.inl (List.mem_map_of_mem (f := fun a => Event.asked a .close ()) hunused))
    · rw [hprimary] at one
      cases one
      exact .inr (.inr (.inl (by simp)))
    · rw [hsecondary] at two
      cases two with
      | started => exact .inr (.inr (.inr (.inr (by simp [closings]))))
      | failed => exact .inr (.inr (.inr (.inl (by simp))))

/-- What becomes of a refused offer: nobody else is asked, and all that was on offer is closed. -/
structure Dismissed (offered : List Adaptor) (new : History) : Prop where
  quiet : ∀ a, a ∉ offered → calls a new = []
  closed : ∀ a ∈ offered, ⟨.close, ()⟩ ∈ calls a new

theorem Installing.dismissed {e : SessionError} (hi : Installing offered (.error e) new) :
    e = .noPrimaryAdaptor ∧ Dismissed offered new := by
  refine ⟨?_, fun a ha => hi.asks.calls_eq_nil fun _ hr => ha hr.1,
    fun a ha => mem_calls.2 (hi.mem_close ha)⟩
  cases hi
  rfl

theorem Decided.append {p : Prop} {more : History} (hd : Decided offered p new)
    (hv : verdicts more = []) (hs : starts more = []) : Decided offered p (new ++ more) := by
  constructor
  · simpa [hv] using hd.judged
  · simpa [hv, hs] using hd.tried
  · simpa [hv, hs] using hd.decided

theorem Seated.append {more : History} (hi : Seated i new) (hv : verdicts more = [])
    (hs : starts more = []) : Seated i (new ++ more) := by
  constructor
  · simpa [hv] using hi.primary
  · simpa [hv, hs] using hi.secondary
  · exact hi.idle

/-- What is reported of the adaptors in use. -/
def inUse (i : Installed) : Journal :=
  [.property "KeyboardAdaptors" (", ".intercalate i.names),
    .event ("Keyboard adaptors in use: " ++ ", ".intercalate i.names)]

/-- An offer of adaptors to a session, or to one that is to be opened, is taken up exactly if the
last applicable primary adaptor starts. It then leads to the last applicable adaptor of each
category, and their names are reported. Otherwise the session and those outside the offer, the
installed adaptors among them, notice nothing, and whatever was on offer is closed. -/
theorem offer_atomic (live : s.installed = some old) (settings : SessionSettings)
    (offered : List Adaptor) (h : History) :
    (∃ result t new, (s.replaceAdaptors o.environment offered).run h = ((result, t), h ++ new) ∧
      Decided offered (result = .ok ()) new ∧
      (result = .ok () → ∃ i, t = s.withInstalled i ∧ Seated i new ∧ journal new = inUse i) ∧
      (result ≠ .ok () → result = .error .noPrimaryAdaptor ∧ t = s ∧ journal new = [] ∧
        Dismissed offered new)) ∧
    ∃ result new, (start o.environment settings offered).run h = (result, h ++ new) ∧
      Decided offered (∃ t, result = .ok t) new ∧
      (∀ t, result = .ok t → ∃ i, t = fresh settings i ∧ Seated i new ∧ journal new = inUse i) ∧
      (∀ e, result = .error e → e = .noPrimaryAdaptor ∧
        journal new = [.event ("Keyboard controller failed to initialize: " ++ e.message)] ∧
        Dismissed offered new) := by
  constructor
  · obtain ⟨⟨result, t⟩, new, he, hp⟩ := leads_replaceAdaptors (o := o) live offered h
    refine ⟨result, t, new, he, ?_⟩
    cases result with
    | error e =>
      cases hp with
      | steps plain => cases plain
      | refusal _ installing =>
        obtain ⟨rfl, dismissed⟩ := installing.dismissed
        exact ⟨installing.decided.congr (by simp), fun hr => by simp at hr,
          fun _ => ⟨rfl, rfl, installing.journal, dismissed⟩⟩
    | ok =>
      cases hp with
      | steps plain => cases plain
      | replacement _ installing =>
        refine ⟨(installing.decided.congr (by simp)).append (by simp) (by simp), fun _ => ?_,
          fun hr => (hr rfl).elim⟩
        refine ⟨_, rfl, installing.seated.append (by simp) (by simp), ?_⟩
        simp [installing.journal, introduction, inUse]
  · obtain ⟨result, new, he, ho⟩ := leads_start (o := o) settings offered h
    refine ⟨result, new, he, ?_⟩
    cases ho with
    | refused installing =>
      obtain ⟨rfl, quiet, closed⟩ := installing.dismissed
      refine ⟨(installing.decided.congr (by simp)).append rfl rfl, fun t hr => by simp at hr, ?_⟩
      rintro _ ⟨⟩
      refine ⟨rfl, by simp [installing.journal], fun a ha => ?_, fun a ha => ?_⟩
      · simpa using quiet a ha
      · simpa using closed a ha
    | opened installing =>
      refine ⟨(installing.decided.congr (by simp)).append (by simp) (by simp), ?_,
        fun e hr => by simp at hr⟩
      rintro _ ⟨⟩
      refine ⟨_, rfl, installing.seated.append (by simp) (by simp), ?_⟩
      simp [installing.journal, introduction, inUse]

/-- Input methods alone do not take the place of what is installed. -/
theorem offer_atomic_without_primary : ∃ (t : Session) (new : History),
    ((fresh {} (Sample.both [Sample.us] Sample.us)).replaceAdaptors
      (Sample.host []).environment [Sample.methods]).run [] =
        ((.error .noPrimaryAdaptor, t), new) ∧
    t = fresh {} (Sample.both [Sample.us] Sample.us) ∧ journal new = [] ∧
    calls Sample.system new = [] ∧ ⟨.close, ()⟩ ∈ calls Sample.methods new := by
  obtain ⟨⟨result, t, new, he, hd, -, hfail⟩, -⟩ := offer_atomic (o := Sample.host [])
    (s := fresh {} (Sample.both [Sample.us] Sample.us)) rfl {} [Sample.methods] []
  have hne : result ≠ .ok () := by
    intro hr
    obtain ⟨a, ha, -⟩ := hd.decided.1 hr
    obtain ⟨hmem, hcategory⟩ := lastApplicable_mem ha
    rw [hd.judged, List.mem_singleton] at hmem
    subst hmem
    cases hcategory
  obtain ⟨rfl, rfl, hjournal, quiet, closed⟩ := hfail hne
  exact ⟨_, new, he, rfl, hjournal, quiet _ (by decide), closed _ List.mem_cons_self⟩

end Session

end Keyboards
