import Keyboards.Proofs.Catalog.Contents
import Keyboards.Proofs.Session.History

/-! How an installation goes: which adaptors are asked what, and what gets installed. -/

namespace Keyboards

/-- What an adaptor on offer said of its being applicable. -/
abbrev Verdict := Adaptor × Bool

/-- What an adaptor answered when it was asked for its keyboards. -/
abbrev Offer := Adaptor × Except AdaptorError (List Keyboard)

/-- The keyboards of an answer. One that fails to enumerate offers none. -/
def Offer.keyboards (x : Offer) : List Keyboard :=
  match x.2 with
  | .ok ks => ks
  | .error _ => []

namespace Selection

def judge (s : Selection) (v : Verdict) : Selection :=
  if v.2 then s.choose v.1 else { s with unused := s.unused ++ [v.1] }

def ofVerdicts (vs : List Verdict) : Selection := vs.foldl judge {}

end Selection

namespace History

def questions (vs : List Verdict) : History := vs.map fun v => .asked v.1 .isApplicable v.2

def closings (as : List Adaptor) : History := as.map fun a => .asked a .close ()

def enumerations (xs : List Offer) : History := xs.map fun x => .asked x.1 .enumerate x.2

/-- A session's word on the adaptors in use. -/
def introduction (i : Installed) : History :=
  let names := ", ".intercalate i.names
  [.reported (.property "KeyboardAdaptors" names),
    .reported (.event ("Keyboard adaptors in use: " ++ names))]

/-- The new adaptors hear of the targets one by one, each time the primary adaptor first. -/
def announcements (targets : FocusTargets) (as : List Adaptor) : History :=
  targets.flatMap fun t => as.map fun a => .asked a (.focus (.added t.1 t.2)) ()

end History

namespace Session

open History

variable {o : Oracle} {offered : List Adaptor}

/-- The start of the adaptor chosen for a category, if there is one: what becomes of it. -/
inductive Starting : Option Adaptor → Option Adaptor → History → Prop where
  | absent : Starting none none []
  | started (a : Adaptor) : Starting (some a) (some a) [.asked a .start (.ok ())]
  | failed (a : Adaptor) (e : AdaptorError) :
      Starting (some a) none [.asked a .start (.error e), .asked a .close ()]

/-- What comes of an offer of adaptors, and all that happens on the way. -/
inductive Installing (offered : List Adaptor) : Except SessionError Installed → History → Prop where
  | refused {verdicts : List Verdict} {secondary : Option Adaptor} {first second : History}
      (judged : verdicts.map Prod.fst = offered)
      (one : Starting (Selection.ofVerdicts verdicts).primary none first)
      (two : Starting (Selection.ofVerdicts verdicts).secondary secondary second) :
      Installing offered (.error .noPrimaryAdaptor)
        (questions verdicts ++ (closings (Selection.ofVerdicts verdicts).unused ++
          (first ++ (second ++ closings secondary.toList))))
  | installed {verdicts : List Verdict} {primary : Adaptor} {secondary : Option Adaptor}
      {first second : History} {offers : List Offer}
      (judged : verdicts.map Prod.fst = offered)
      (one : Starting (Selection.ofVerdicts verdicts).primary (some primary) first)
      (two : Starting (Selection.ofVerdicts verdicts).secondary secondary second)
      (listed : offers.map Prod.fst = primary :: secondary.toList) :
      Installing offered
        (.ok ⟨primary, secondary, Catalog.ofList (offers.flatMap Offer.keyboards), .zero⟩)
        (questions verdicts ++ (closings (Selection.ofVerdicts verdicts).unused ++
          (first ++ (second ++ enumerations offers))))

theorem leads_select (offered : List Adaptor) :
    Leads (select o.environment offered) fun chosen new =>
      ∃ verdicts : List Verdict, verdicts.map Prod.fst = offered ∧ new = questions verdicts ∧
        chosen = Selection.ofVerdicts verdicts := by
  -- The induction is on the adaptors still to be asked, from any selection made before.
  suffices h : ∀ s : Selection, Leads
      (offered.foldlM (fun s a => do
        if ← o.environment.ask a .isApplicable then pure (s.choose a)
        else pure { s with unused := s.unused ++ [a] }) s) fun chosen new =>
      ∃ verdicts : List Verdict, verdicts.map Prod.fst = offered ∧ new = questions verdicts ∧
        chosen = verdicts.foldl Selection.judge s from h {}
  induction offered with
  | nil =>
    intro s
    exact .pure ⟨[], rfl, rfl, rfl⟩
  | cons a offered ih =>
    intro s
    rw [List.foldlM_cons]
    refine Leads.bind (P := fun t new => ∃ b, new = questions [(a, b)] ∧ t = s.judge (a, b))
      ?_ ?_
    · refine Leads.bind (P := fun b new => new = questions [(a, b)]) (.ask fun _ => rfl) ?_
      rintro b _ rfl
      cases b with
      | true => exact .pure ⟨true, by simp, rfl⟩
      | false => exact .pure ⟨false, by simp, rfl⟩
    · rintro _ _ ⟨b, rfl, rfl⟩
      refine (ih _).mono ?_
      rintro chosen _ ⟨verdicts, rfl, rfl, rfl⟩
      exact ⟨(a, b) :: verdicts, rfl, rfl, rfl⟩

theorem leads_closeAll (as : List Adaptor) :
    Leads (closeAll o.environment as) fun _ new => new = closings as := by
  refine (Leads.forM (fun a => [.asked a .close ()])
    (fun _ => .ask (r := .close) fun _ => rfl) as).mono ?_
  rintro _ _ rfl
  exact List.map_eq_flatMap.symm

theorem leads_startAdaptor (a : Option Adaptor) :
    Leads (startAdaptor o.environment a) (Starting a) := by
  cases a with
  | none => exact .pure .absent
  | some a =>
    refine Leads.bind (P := fun answer new => new = [.asked a .start answer])
      (.ask fun _ => rfl) ?_
    rintro answer _ rfl
    cases answer with
    | ok => exact .pure (.started a)
    | error e =>
      refine Leads.bind (P := fun _ new => new = [.asked a .close ()]) (.ask fun _ => rfl) ?_
      rintro _ _ rfl
      exact .pure (.failed a e)

theorem leads_enumerate (as : List Adaptor) :
    Leads (enumerate o.environment as) fun catalog new =>
      ∃ offers : List Offer, offers.map Prod.fst = as ∧ new = enumerations offers ∧
        catalog = Catalog.ofList (offers.flatMap Offer.keyboards) := by
  -- The induction is on the adaptors still to be asked, from any catalog filled before.
  unfold enumerate Catalog.ofList
  generalize Catalog.empty = c
  induction as generalizing c with
  | nil => exact .pure ⟨[], rfl, rfl, rfl⟩
  | cons a as ih =>
    rw [List.foldlM_cons]
    refine Leads.bind (P := fun d new => ∃ x : Offer, x.1 = a ∧ new = enumerations [x] ∧
      d = (c.insertAll x.keyboards).2) ?_ ?_
    · refine Leads.bind (P := fun answer new => new = enumerations [(a, answer)])
        (.ask fun _ => rfl) ?_
      rintro answer _ rfl
      cases answer with
      | ok ks => exact .pure ⟨(a, .ok ks), rfl, by simp, rfl⟩
      | error e => exact .pure ⟨(a, .error e), rfl, by simp, rfl⟩
    · rintro _ _ ⟨x, rfl, rfl, rfl⟩
      refine (ih _).mono ?_
      rintro catalog _ ⟨offers, rfl, rfl, rfl⟩
      exact ⟨x :: offers, rfl, rfl, by rw [List.flatMap_cons, Catalog.insertAll_append]⟩

theorem leads_install (offered : List Adaptor) :
    Leads (install o.environment offered) (Installing offered) := by
  refine (leads_select offered).bind ?_
  rintro _ _ ⟨verdicts, judged, rfl, rfl⟩
  refine (leads_closeAll _).bind ?_
  rintro _ _ rfl
  refine (leads_startAdaptor _).bind fun primary first one => ?_
  refine (leads_startAdaptor _).bind fun secondary second two => ?_
  cases primary with
  | none =>
    refine (leads_closeAll _).bind ?_
    rintro _ _ rfl
    refine .pure ?_
    rw [List.append_nil]
    exact .refused judged one two
  | some primary =>
    refine (leads_enumerate _).bind ?_
    rintro _ _ ⟨offers, listed, rfl, rfl⟩
    refine .pure ?_
    rw [List.append_nil]
    exact .installed judged one two listed

theorem leads_reportAdaptors (i : Installed) :
    Leads (reportAdaptors o.environment i) fun _ new => new = introduction i := by
  refine Leads.bind (P := fun _ new => new = [.reported (.property "KeyboardAdaptors" _)])
    (.report rfl) ?_
  rintro _ _ rfl
  exact .report rfl

theorem leads_announce (targets : FocusTargets) (as : List Adaptor) :
    Leads (targets.forM (announce o.environment as)) fun _ new =>
      new = announcements targets as := by
  refine Leads.forM (fun t => as.map fun a => .asked a (.focus (.added t.1 t.2)) ()) ?_ targets
  intro t
  refine (Leads.forM (fun a => [.asked a (.focus (.added t.1 t.2)) ()])
    (fun _ => .ask (r := .focus _) fun _ => rfl) as).mono ?_
  rintro _ _ rfl
  exact List.map_eq_flatMap.symm

end Session

end Keyboards
