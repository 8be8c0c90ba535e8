import Mathlib.Tactic.Common
import Keyboards.Session.Command

/-! Histories: everything that a session asks, tells and reports, with the answers it gets. -/

namespace Keyboards

/-- One thing that happened between a session and what surrounds it. -/
inductive Event where
  | asked (adaptor : Adaptor) (request : Request) (answer : request.Answer)
  | told (listener : Listener) (event : FocusEvent)
  | reported (report : Report)

/-- Events in the order in which they happened. -/
abbrev History := List Event

/-- Answers for all adaptors; each may depend on everything that happened before. -/
abbrev Oracle := History → Adaptor → (r : Request) → r.Answer

/-- The environment in which an oracle answers and every event is written down. -/
def Oracle.environment (o : Oracle) : Environment (StateM History) where
  ask a r h := (o h a r, h ++ [.asked a r (o h a r)])
  tell l e h := ((), h ++ [.told l e])
  report r h := ((), h ++ [.reported r])

/-- Adaptors that are all applicable and do all that they are asked. -/
def Oracle.willing (listed : History → Adaptor → List Keyboard) : Oracle := fun h a r =>
  match r with
  | .isApplicable => true
  | .start | .activate _ => .ok ()
  | .enumerate => .ok (listed h a)
  | .close | .deactivate _ | .focus _ => ()
  | .describe layout locale => .make layout locale a.category a.name
  | .defaultKeyboard | .activeKeyboard | .setupProgram => none
  | .setupIsExtra => false

/-- A request that an adaptor got, with its answer. -/
abbrev Call := (r : Request) × r.Answer

namespace History

variable {a b : Adaptor} {h g : History}

/-- The calls that one adaptor got. -/
def calls (a : Adaptor) (h : History) : List Call :=
  h.filterMap fun
    | .asked b r answer => if b = a then some ⟨r, answer⟩ else none
    | _ => none

/-- What was reported. -/
def journal (h : History) : Journal :=
  h.filterMap fun
    | .reported r => some r
    | _ => none

@[simp] theorem calls_nil : calls a [] = [] := rfl

@[simp] theorem calls_append : calls a (h ++ g) = calls a h ++ calls a g := List.filterMap_append

theorem calls_asked (r : Request) (answer : r.Answer) :
    calls a (.asked b r answer :: h) = if b = a then ⟨r, answer⟩ :: calls a h else calls a h := by
  by_cases hb : b = a <;> simp [calls, hb]

@[simp] theorem calls_asked_self (r : Request) (answer : r.Answer) :
    calls a (.asked a r answer :: h) = ⟨r, answer⟩ :: calls a h := by
  simp [calls_asked]

theorem calls_asked_other (hb : b ≠ a) (r : Request) (answer : r.Answer) :
    calls a (.asked b r answer :: h) = calls a h := by
  simp [calls_asked, hb]

@[simp] theorem calls_reported (r : Report) : calls a (.reported r :: h) = calls a h := rfl

theorem mem_calls {c : Call} : c ∈ calls a h ↔ .asked a c.1 c.2 ∈ h := by
  simp only [calls, List.mem_filterMap]
  constructor
  · rintro ⟨e, he, hc⟩
    cases e with
    | asked b r answer =>
      by_cases hb : b = a
      · subst hb
        simp only [if_true, Option.some.injEq] at hc
        subst hc
        exact he
      · simp [hb] at hc
    | told | reported => simp at hc
  · intro hc
    exact ⟨_, hc, by simp⟩

@[simp] theorem journal_nil : journal [] = [] := rfl

@[simp] theorem journal_append : journal (h ++ g) = journal h ++ journal g :=
  List.filterMap_append

@[simp] theorem journal_reported (r : Report) :
    journal (.reported r :: h) = r :: journal h := rfl

end History

/-- Whatever happened before and whatever the answers are, the program ends, and its result and
the events that it adds to the history fit. -/
def Leads {α : Type} (x : StateM History α) (Q : α → History → Prop) : Prop :=
  ∀ h, ∃ a new, x h = (a, h ++ new) ∧ Q a new

namespace Leads

variable {α β : Type} {o : Oracle} {x : StateM History α} {P Q : α → History → Prop}

theorem mono (hx : Leads x P) (hpq : ∀ a new, P a new → Q a new) : Leads x Q := by
  intro h
  obtain ⟨a, new, he, hp⟩ := hx h
  exact ⟨a, new, he, hpq a new hp⟩

theorem pure {a : α} (hq : Q a []) : Leads (pure a) Q := by
  intro h
  exact ⟨a, [], by rw [List.append_nil]; rfl, hq⟩

/-- A program behind another, after one history. -/
theorem bind_at {f : α → StateM History β} {R : β → History → Prop} {h new : History} {a : α}
    (hx : x h = (a, h ++ new))
    (hf : ∃ b more, f a (h ++ new) = (b, h ++ new ++ more) ∧ R b (new ++ more)) :
    ∃ b more, (x >>= f) h = (b, h ++ more) ∧ R b more := by
  obtain ⟨b, more, hb, hr⟩ := hf
  have hrun : (x >>= f) h = f (x h).1 (x h).2 := rfl
  refine ⟨b, new ++ more, ?_, hr⟩
  rw [hrun, hx, hb, List.append_assoc]

theorem bind {f : α → StateM History β} {R : β → History → Prop} (hx : Leads x P)
    (hf : ∀ a new, P a new → Leads (f a) fun b more => R b (new ++ more)) :
    Leads (x >>= f) R := by
  intro h
  obtain ⟨a, new, hxe, hp⟩ := hx h
  exact bind_at hxe (hf a new hp (h ++ new))

theorem map {f : α → β} {R : β → History → Prop} (hx : Leads x fun a new => R (f a) new) :
    Leads (f <$> x) R := by
  intro h
  obtain ⟨a, new, he, hr⟩ := hx h
  have hm : (f <$> x) h = (f (x h).1, (x h).2) := rfl
  exact ⟨f a, new, by rw [hm, he], hr⟩

theorem ask {a : Adaptor} {r : Request} {Q : r.Answer → History → Prop}
    (hq : ∀ answer, Q answer [.asked a r answer]) : Leads (o.environment.ask a r) Q := by
  intro h
  exact ⟨_, _, rfl, hq _⟩

theorem tell {l : Listener} {e : FocusEvent} {Q : Unit → History → Prop}
    (hq : Q () [.told l e]) : Leads (o.environment.tell l e) Q := by
  intro h
  exact ⟨_, _, rfl, hq⟩

theorem report {r : Report} {Q : Unit → History → Prop} (hq : Q () [.reported r]) :
    Leads (o.environment.report r) Q := by
  intro h
  exact ⟨_, _, rfl, hq⟩

/-- A loop adds the events of its rounds, one after the other. -/
theorem forM {f : α → StateM History Unit} (events : α → History)
    (hf : ∀ a, Leads (f a) fun _ new => new = events a) (as : List α) :
    Leads (as.forM f) fun _ new => new = as.flatMap events := by
  induction as with
  | nil => exact .pure rfl
  | cons a as ih =>
    change Leads (f a >>= fun _ => as.forM f) _
    refine (hf a).bind fun _ new hnew => ih.mono fun _ more hmore => ?_
    rw [hnew, hmore, List.flatMap_cons]

/-- A program run from a known history gives the result and events that fit. -/
theorem run {h g : History} {a : α} (hx : Leads x Q) (he : x h = (a, g)) :
    ∃ new, g = h ++ new ∧ Q a new := by
  obtain ⟨b, new, hb, hq⟩ := hx h
  rw [he] at hb
  obtain ⟨rfl, rfl⟩ := Prod.mk.inj hb
  exact ⟨new, rfl, hq⟩

end Leads

end Keyboards
