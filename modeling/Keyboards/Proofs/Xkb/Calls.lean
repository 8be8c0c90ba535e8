import Keyboards.Proofs.Session.Lifecycle
import Keyboards.Proofs.Xkb.Switching

/-! The calls that an adaptor gets, and what it keeps over them. -/

namespace Keyboards.Xkb

variable {σ : Type} {host : Host (StateM σ)} {s t t' : State} {r : Request} {x : r.Answer}
  {w w' : σ} {name : String} {made body : List Call}

/-- The host gives a name for the layout in effect. -/
def Host.Tells (host : Host (StateM σ)) (w : σ) (name : String) : Prop :=
  ∃ output q, (host.query.run w).1 = .ok output ∧ Query.read output = .ok q ∧
    q.current? = some name

theorem current_eq_some_iff : ((current host).run w).1 = some name ↔ host.Tells w name := by
  rw [current, run_bind_eq, Host.Tells]
  cases (host.query.run w).1 with
  | error e =>
    constructor
    · intro h
      cases h
    · rintro ⟨_, _, ⟨⟩, -⟩
  | ok output =>
    dsimp only
    cases hread : Query.read output with
    | error e =>
      constructor
      · intro h
        cases h
      · rintro ⟨_, _, ⟨⟩, hread', -⟩
        cases hread.symm.trans hread'
    | ok q =>
      constructor
      · exact fun h => ⟨output, q, rfl, hread, h⟩
      · rintro ⟨_, _, ⟨⟩, hread', h⟩
        cases hread.symm.trans hread'
        exact h

/-- Nothing but a start and a close changes what an adaptor keeps. -/
theorem answer_state (ran : (answer host t r).run w = ((x, t'), w')) (hstart : r ≠ .start)
    (hclose : r ≠ .close) : t' = t := by
  cases r with
  | start => exact (hstart rfl).elim
  | close => exact (hclose rfl).elim
  | _ => exact (congrArg (·.1.2) ran).symm

/-- An adaptor is asked, in whatever state its host is then, and answers. -/
inductive Asked (host : Host (StateM σ)) : State → List Call → State → Prop
  | nil {s : State} : Asked host s [] s
  | cons {s s' t : State} {r : Request} {x : r.Answer} {w w' : σ} {made : List Call}
      (ran : (answer host s r).run w = ((x, s'), w')) (rest : Asked host s' made t) :
      Asked host s (⟨r, x⟩ :: made) t

/-- While an adaptor does its work it keeps what it has. -/
theorem Asked.work (path : Asked host s made t) (work : ∀ c ∈ made, c.1.isWork = true) :
    t = s ∧ ∀ (r : Request) (x : r.Answer), ⟨r, x⟩ ∈ made →
      ∃ w w', (answer host s r).run w = ((x, s), w') := by
  induction path with
  | nil => exact ⟨rfl, fun _ _ hc => absurd hc List.not_mem_nil⟩
  | @cons s s' t r x w w' made ran rest ih =>
    obtain ⟨hr, hmade⟩ := List.forall_mem_cons.1 work
    obtain rfl := answer_state ran (by rintro rfl; cases hr) (by rintro rfl; cases hr)
    obtain ⟨rfl, answered⟩ := ih hmade
    refine ⟨rfl, fun r' x' hc => ?_⟩
    rcases List.mem_cons.1 hc with he | hc
    · cases he
      exact ⟨w, w', ran⟩
    · exact answered r' x' hc

/-- An adaptor in place keeps what it found at its start. -/
theorem Asked.serving (path : Asked host s made t) (serving : Session.Serving made) :
    ∃ w w', (answer host s .start).run w = ((.ok (), t), w') ∧
      ∀ (r : Request) (x : r.Answer), ⟨r, x⟩ ∈ made → r.isWork = true →
        ∃ w w', (answer host t r).run w = ((x, t), w') := by
  obtain ⟨b, body, work, rfl⟩ := serving
  cases path with
  | cons asked rest =>
    obtain rfl := answer_state asked nofun nofun
    cases rest with
    | cons started rest =>
      obtain ⟨rfl, answered⟩ := rest.work work
      refine ⟨_, _, started, fun r x hc hwork => ?_⟩
      rcases List.mem_cons.1 hc with he | hc
      · cases he
        cases hwork
      · rcases List.mem_cons.1 hc with he | hc
        · cases he
          cases hwork
        · exact answered r x hc

end Keyboards.Xkb
