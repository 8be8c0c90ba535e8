import Keyboards.Proofs.Session.Operations

/-! Nothing works after a shutdown, and nothing happens any more. -/

namespace Keyboards.Session

open History

variable {o : Oracle} {s : Session}

/-- A session after its shutdown. -/
def disposed (s : Session) : Session := { s with installed := none }

/-- The events of a shutdown: what is installed is closed. -/
def ending (s : Session) : History :=
  match s.installed with
  | some i => closings i.adaptors
  | none => []

/-- How a session replies after its shutdown. Its settings and that it is shut down can still be
asked for, a further shutdown has nothing to do, and a writing system comes back as it was. -/
def refusal (s : Session) : Command → Reply
  | .settings => .settings s.settings
  | .isDisposed => .flag true
  | .shutDown => .done
  | .activateFor ws => .activationFor (.error .disposed) ws
  | _ => .failed .disposed

theorem perform_gone (gone : s.installed = none) (c : Command) :
    s.perform o.environment c = pure (s.refusal c, s) := by
  obtain ⟨settings, installed, warned, targets, listeners⟩ := s
  cases gone
  cases c <;> rfl

/-- Command after command is refused, and neither session nor history changes. -/
theorem run_gone (gone : s.installed = none) (cs : List Command) :
    s.run o.environment cs = pure (cs.map s.refusal, s) := by
  induction cs with
  | nil => rfl
  | cons c cs ih =>
    rw [run, perform_gone gone c, pure_bind]
    dsimp only
    rw [ih, pure_bind, List.map_cons]

theorem run_shutDown (o : Oracle) (s : Session) (h : History) :
    (s.shutDown o.environment).run h = (s.disposed, h ++ s.ending) := by
  cases live : s.installed with
  | none =>
    have hsame : s.disposed = s := by
      rw [disposed, ← live]
    have hrun : s.shutDown o.environment = pure s := by
      rw [shutDown, live]
    rw [hrun, hsame, ending, live, List.append_nil]
    rfl
  | some i =>
    obtain ⟨t, new, he, rfl, rfl⟩ := leads_shutDown (o := o) live h
    rw [ending, live]
    exact he

/-- Whatever a session was in the middle of: once it is shut down, it refuses everything that it is
asked to do, for good. No adaptor and no listener hears of it and nothing is reported, beyond that
what was installed is closed, once. A further shutdown, such as the last one when the session is
dropped, changes nothing and closes nothing. -/
theorem silent_after_shutDown (o : Oracle) (s : Session) (h : History) (cs : List Command) :
    let t := s.disposed
    let g := h ++ s.ending
    (s.run o.environment (.shutDown :: cs)).run h = ((.done :: cs.map t.refusal, t), g) ∧
    t.isDisposed = true ∧
    (t.shutDown o.environment).run g = (t, g) ∧
    (t.setupProgram o.environment).run g = (.error .disposed, g) ∧
    (t.extraSetupProgram o.environment).run g = (.error .disposed, g) ∧
    (t.hasExtraSetupProgram o.environment).run g = (.error .disposed, g) := by
  have gone : s.disposed.installed = none := rfl
  have hrun : (s.run o.environment (.shutDown :: cs)).run h =
      let p := (s.shutDown o.environment).run h
      let q := (p.1.run o.environment cs).run p.2
      ((.done :: q.1.1, q.1.2), q.2) := rfl
  have hended : s.disposed.ending = [] := rfl
  refine ⟨?_, rfl, ?_, rfl, rfl, rfl⟩
  · rw [hrun, run_shutDown]
    dsimp only
    rw [run_gone gone cs]
    rfl
  · have hagain := run_shutDown o s.disposed (h ++ s.ending)
    rw [hended, List.append_nil] at hagain
    exact hagain

end Keyboards.Session
