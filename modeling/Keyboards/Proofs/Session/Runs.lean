import Mathlib.Data.List.Induction
import Keyboards.Proofs.Session.Operations

/-! Runs of a session from its opening on. -/

namespace Keyboards.Session

open History

variable {o : Oracle} {settings : SessionSettings} {offered : List Adaptor}
  {cs ds : List Command} {s t : Session} {g h : History}

/-- A session that has just been opened. -/
def fresh (settings : SessionSettings) (i : Installed) : Session :=
  { settings, installed := some i, warned := [], targets := [], listeners := [] }

/-- How the opening of a session goes. -/
inductive Opening (settings : SessionSettings) (offered : List Adaptor) :
    Except SessionError Session → History → Prop where
  | refused {e : SessionError} {new : History} (installing : Installing offered (.error e) new) :
      Opening settings offered (.error e) (new ++
        [.reported (.event ("Keyboard controller failed to initialize: " ++ e.message))])
  | opened {i : Installed} {new : History} (installing : Installing offered (.ok i) new) :
      Opening settings offered (.ok (fresh settings i)) (new ++ introduction i)

theorem leads_start (settings : SessionSettings) (offered : List Adaptor) :
    Leads (start o.environment settings offered) (Opening settings offered) := by
  refine (leads_install offered).bind fun result new installing => ?_
  cases result with
  | error e =>
    refine Leads.bind (P := fun _ more => more = [.reported (.event
      ("Keyboard controller failed to initialize: " ++ e.message))]) (.report rfl) ?_
    rintro _ _ rfl
    exact .pure (.refused installing)
  | ok i =>
    refine (leads_reportAdaptors i).bind ?_
    rintro _ _ rfl
    refine .pure ?_
    have ho : Opening settings offered _ _ := .opened installing
    simpa [fresh] using ho

/-- The session and the history after adaptors were offered to a new session and commands were
carried out, all with the answers of one oracle. -/
def Reached (o : Oracle) (settings : SessionSettings) (offered : List Adaptor)
    (cs : List Command) (s : Session) (h : History) : Prop :=
  ∃ s₀ h₀ replies, (start o.environment settings offered).run [] = (.ok s₀, h₀) ∧
    (s₀.run o.environment cs).run h₀ = ((replies, s), h)

theorem run_snoc (s : Session) (cs : List Command) (c : Command) (h : History) :
    (s.run o.environment (cs ++ [c])).run h =
      let p := (s.run o.environment cs).run h
      let q := (p.1.2.perform o.environment c).run p.2
      ((p.1.1 ++ [q.1.1], q.1.2), q.2) := by
  induction cs generalizing s h with
  | nil => rfl
  | cons d cs ih =>
    have hrun : ∀ cs, (s.run o.environment (d :: cs)).run h =
        let p := (s.perform o.environment d).run h
        let q := (p.1.2.run o.environment cs).run p.2
        ((p.1.1 :: q.1.1, q.1.2), q.2) := fun _ => rfl
    rw [List.cons_append, hrun, hrun]
    simp only [ih, List.cons_append]

theorem reached_nil : Reached o settings offered [] s h ↔
    (start o.environment settings offered).run [] = (.ok s, h) := by
  constructor
  · rintro ⟨s₀, h₀, replies, hs, hr⟩
    cases hr
    exact hs
  · intro hs
    exact ⟨s, h, [], hs, rfl⟩

/-- Whatever the commands, an open session carries them out. -/
theorem exists_reached (opened : Reached o settings offered [] s g) (cs : List Command) :
    ∃ t h, Reached o settings offered cs t h :=
  ⟨((s.run o.environment cs).run g).1.2, ((s.run o.environment cs).run g).2, s, g, _,
    reached_nil.1 opened, rfl⟩

/-- A run with one more command. -/
theorem reached_snoc {c : Command} :
    Reached o settings offered (cs ++ [c]) t h ↔ ∃ s g reply,
      Reached o settings offered cs s g ∧
      (s.perform o.environment c).run g = ((reply, t), h) := by
  constructor
  · rintro ⟨s₀, h₀, replies, hs, hr⟩
    rw [run_snoc] at hr
    cases hr
    exact ⟨_, _, _, ⟨s₀, h₀, _, hs, rfl⟩, rfl⟩
  · rintro ⟨s, g, reply, ⟨s₀, h₀, before, hs, hb⟩, hp⟩
    refine ⟨s₀, h₀, before ++ [reply], hs, ?_⟩
    rw [run_snoc, hb]
    simp only [hp]

/-- What holds after the opening and is kept by every command holds after every run. -/
theorem Reached.induct {P : List Command → Session → History → Prop}
    (opened : ∀ i new, Reached o settings offered [] (fresh settings i) (new ++ introduction i) →
      Installing offered (.ok i) new → P [] (fresh settings i) (new ++ introduction i))
    (performed : ∀ cs s h i c reply new t, Reached o settings offered cs s h → P cs s h →
      s.installed = some i → (s.perform o.environment c).run h = ((reply, t), h ++ new) →
      Performed s c reply new t → P (cs ++ [c]) t (h ++ new))
    (disposed : ∀ cs s h c reply, Reached o settings offered cs s h → P cs s h →
      s.installed = none → (s.perform o.environment c).run h = ((reply, s), h) →
      P (cs ++ [c]) s h)
    (reached : Reached o settings offered cs s h) : P cs s h := by
  induction cs using List.reverseRecOn generalizing s h with
  | nil =>
    obtain ⟨new, rfl, ho⟩ := (leads_start settings offered).run (reached_nil.1 reached)
    cases ho with
    | opened installing => exact opened _ _ reached installing
  | append_singleton cs c ih =>
    obtain ⟨s, g, reply, hs, hp⟩ := reached_snoc.1 reached
    cases live : s.installed with
    | some i =>
      obtain ⟨new, rfl, hperf⟩ := (leads_perform live c).run hp
      exact performed cs s g i c reply new _ hs (ih hs) live hp hperf
    | none =>
      obtain ⟨reply', he, -⟩ := perform_disposed (o := o) live c
      have hp' := hp
      rw [he] at hp
      cases hp
      exact disposed cs _ _ c _ hs (ih hs) live hp'

end Keyboards.Session
