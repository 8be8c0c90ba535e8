import Keyboards.Proofs.Session.History
import Keyboards.Simulation.World

/-! What a world answers is a history, and what becomes of the world can be told from it. -/

namespace Keyboards.Simulation.World

variable {w v : World} {g h : History} {α β : Type}

/-- What an event makes of the world. The answer to a request plays no part. -/
def meet (w : World) : Event → World
  | .asked a r _ => (w.ask a r).2
  | .told l e => { w with log := w.log ++ ["listener " ++ l.name ++ ": " ++ e.describe] }
  | .reported x => { w with journal := w.journal ++ [x] }

def replay (w : World) (h : History) : World := h.foldl meet w

@[simp] theorem replay_nil (w : World) : w.replay [] = w := rfl

theorem replay_cons (w : World) (e : Event) (h : History) :
    w.replay (e :: h) = (w.meet e).replay h := rfl

theorem replay_append (w : World) (g h : History) :
    w.replay (g ++ h) = (w.replay g).replay h := List.foldl_append

/-- Whether an answer is the one that the world gives. -/
def Gives (w : World) : Event → Prop
  | .asked a r answer => (w.ask a r).1 = answer
  | .told .. | .reported _ => True

/-- All answers of a history are those of the world at their time. -/
def Truthful (w : World) : History → Prop
  | [] => True
  | e :: h => w.Gives e ∧ Truthful (w.meet e) h

theorem truthful_append : w.Truthful (g ++ h) ↔ w.Truthful g ∧ (w.replay g).Truthful h := by
  induction g generalizing w with
  | nil => simp [Truthful]
  | cons e g ih =>
    rw [List.cons_append, Truthful, Truthful, ih, and_assoc]
    rfl

/-- The oracle that gives the answers of a world. -/
def oracle (w : World) : Oracle := fun h a r => ((w.replay h).ask a r).1

/-- A program, written for any environment, does in a world what it does with the world's oracle:
it comes to the same result, and the world goes through the events that the history gets. -/
def Follows (w : World) (x : {m : Type → Type} → [Monad m] → Environment m → m α) : Prop :=
  ∀ h, ∃ a new, x w.oracle.environment h = (a, h ++ new) ∧ (w.replay h).Truthful new ∧
    x environment (w.replay h) = (a, w.replay (h ++ new))

namespace Follows

theorem pure (w : World) (a : α) : w.Follows fun {_} [Monad _] _ => Pure.pure a := by
  intro h
  refine ⟨a, [], ?_, trivial, ?_⟩ <;> rw [List.append_nil] <;> rfl

theorem bind {x : {m : Type → Type} → [Monad m] → Environment m → m α}
    {f : α → {m : Type → Type} → [Monad m] → Environment m → m β}
    (hx : w.Follows x) (hf : ∀ a, w.Follows (f a)) :
    w.Follows fun env => x env >>= fun a => f a env := by
  intro h
  obtain ⟨a, new, hox, htx, hwx⟩ := hx h
  obtain ⟨b, more, hof, htf, hwf⟩ := hf a (h ++ new)
  have hbind : ∀ {σ : Type} (y : StateM σ α) (g : α → StateM σ β) (s : σ),
      (y >>= g) s = g (y s).1 (y s).2 := fun _ _ _ => rfl
  dsimp only at hox hwx hof hwf ⊢
  refine ⟨b, new ++ more, ?_, truthful_append.2 ⟨htx, ?_⟩, ?_⟩
  · rw [hbind, hox, hof, List.append_assoc]
  · rwa [← replay_append]
  · rw [hbind, hwx, hwf, List.append_assoc]

theorem map {x : {m : Type → Type} → [Monad m] → Environment m → m α} (hx : w.Follows x)
    (f : α → β) : w.Follows fun env => f <$> x env := by
  intro h
  obtain ⟨a, new, ho, ht, hw⟩ := hx h
  have hmap : ∀ {σ : Type} (y : StateM σ α) (s : σ), (f <$> y) s = (f (y s).1, (y s).2) :=
    fun _ _ => rfl
  dsimp only at ho hw ⊢
  exact ⟨f a, new, by rw [hmap, ho], ht, by rw [hmap, hw]⟩

theorem ask (w : World) (a : Adaptor) (r : Request) : w.Follows fun env => env.ask a r := by
  intro h
  refine ⟨_, [.asked a r (w.oracle h a r)], rfl, ⟨rfl, trivial⟩, ?_⟩
  rw [replay_append]
  rfl

theorem tell (w : World) (l : Listener) (e : FocusEvent) : w.Follows fun env => env.tell l e := by
  intro h
  refine ⟨(), [.told l e], rfl, ⟨trivial, trivial⟩, ?_⟩
  rw [replay_append]
  rfl

theorem report (w : World) (x : Report) : w.Follows fun env => env.report x := by
  intro h
  refine ⟨(), [.reported x], rfl, ⟨trivial, trivial⟩, ?_⟩
  rw [replay_append]
  rfl

theorem forM {f : α → {m : Type → Type} → [Monad m] → Environment m → m Unit}
    (hf : ∀ a, w.Follows (f a)) (as : List α) :
    w.Follows fun env => as.forM fun a => f a env := by
  induction as with
  | nil => exact .pure w ()
  | cons a as ih => exact (hf a).bind fun _ => ih

theorem foldlM {f : β → α → {m : Type → Type} → [Monad m] → Environment m → m β}
    (hf : ∀ b a, w.Follows (f b a)) (b : β) (as : List α) :
    w.Follows fun env => as.foldlM (fun b a => f b a env) b := by
  induction as generalizing b with
  | nil => exact .pure w b
  | cons a as ih => exact (hf b a).bind fun b => ih b

/-- What a program leads to with any oracle it leads to in the world. -/
theorem leads {x : {m : Type → Type} → [Monad m] → Environment m → m α} {a : α}
    {Q : α → History → Prop} (hx : w.Follows x) (hq : Leads (x w.oracle.environment) Q)
    (run : (x environment).run w = (a, v)) :
    ∃ new, w.Truthful new ∧ v = w.replay new ∧ Q a new := by
  obtain ⟨b, new, ho, ht, hw⟩ := hx []
  obtain ⟨c, more, hl, hq⟩ := hq []
  rw [List.nil_append] at ho hw hl
  obtain ⟨rfl, rfl⟩ := Prod.mk.inj (ho.symm.trans hl)
  obtain ⟨rfl, rfl⟩ := Prod.mk.inj (run.symm.trans hw)
  exact ⟨new, ht, rfl, hq⟩

end Follows

end Keyboards.Simulation.World
