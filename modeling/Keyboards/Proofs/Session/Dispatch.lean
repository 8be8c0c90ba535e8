import Keyboards.Proofs.Session.Exclusivity

/-! Which adaptors a request to activate a keyboard calls, and what it changes. -/

namespace Keyboards

namespace History

variable {g h : History}

/-- The calls that adaptors got, in order. -/
def asked (h : History) : History :=
  h.filter fun
    | .asked .. => true
    | .told .. | .reported _ => false

@[simp] theorem asked_nil : asked [] = [] := rfl

@[simp] theorem asked_append : asked (g ++ h) = asked g ++ asked h := List.filter_append ..

@[simp] theorem asked_cons (a : Adaptor) (r : Request) (answer : r.Answer) (h : History) :
    asked (.asked a r answer :: h) = .asked a r answer :: asked h := rfl

@[simp] theorem asked_letting (x : Option Adaptor) (k : Keyboard) :
    asked (letting x k) = letting x k := by
  cases x <;> rfl

@[simp] theorem asked_restoring (x : Option Adaptor) (k : Keyboard)
    (answer : Except AdaptorError Unit) : asked (restoring x k answer) = restoring x k answer := by
  cases x <;> rfl

end History

namespace Session

open History

variable {o : Oracle} {settings : SessionSettings} {offered : List Adaptor} {cs : List Command}
  {s t : Session} {i : Installed} {g new : History} {a : Adaptor} {c : Category} {k r : Keyboard}

/-- The entry that a request for a keyboard means: an available one with the keyboard's key. -/
def Offers (i : Installed) (k r : Keyboard) : Prop :=
  r ∈ i.catalog.toList ∧ r.canonicalKey = Catalog.keyOf k.layout k.locale ∧ r.available = true

/-- The adaptor to leave for a category: the installed one of another category whose keyboard is in
use. -/
def Leaves (i : Installed) (c : Category) (left : Option Adaptor) : Prop :=
  ∀ b, left = some b ↔ b ∈ i.adaptors ∧ b.category ≠ c ∧ Tracks i b

/-- What a request to activate a keyboard comes to after some history: its outcome, the calls that
adaptors get for it, and the keyboard in use afterwards. -/
structure Dispatch (o : Oracle) (g : History) (i : Installed) (k : Keyboard)
    (outcome : Activation) (calls : History) (active : Keyboard) : Prop where
  zero : k.isZero = true → outcome = .noKeyboard ∧ calls = [] ∧ active = i.active
  unserved : k.isZero = false →
    (∀ r a, Offers i k r → a ∈ i.adaptors → r.category ≠ some a.category) →
    outcome = .failed ∧ calls = [] ∧ active = i.active
  served : k.isZero = false → ∀ r a, Offers i k r → a ∈ i.adaptors →
    r.category = some a.category → ∃ left, Leaves i a.category left ∧
      (o (g ++ letting left i.active) a (.activate r) = .ok () →
        outcome = .activated ∧ active = r ∧
          calls = letting left i.active ++ [.asked a (.activate r) (.ok ())]) ∧
      ∀ e, o (g ++ letting left i.active) a (.activate r) = .error e →
        outcome = .failed ∧ active = i.active ∧ ∃ back,
          calls = letting left i.active ++ [.asked a (.activate r) (.error e)] ++
            restoring left i.active back

theorem offers_iff (hs : i.Sound) :
    Offers i k r ↔ i.catalog.get? k.layout k.locale = some r ∧ r.available = true := by
  constructor
  · rintro ⟨mem, key, available⟩
    have found := Catalog.get?_of_mem hs.indexed mem
    rw [Catalog.get?, show Catalog.keyOf r.layout r.locale = _ from key] at found
    exact ⟨found, available⟩
  · rintro ⟨found, available⟩
    obtain ⟨mem, key⟩ := Catalog.get?_eq_some hs.indexed found
    exact ⟨mem, key, available⟩

theorem serving_iff (hs : i.Sound) : i.serving c = some a ↔ a ∈ i.adaptors ∧ a.category = c := by
  constructor
  · intro serves
    exact ⟨Installed.serving_mem serves, hs.category_of_serving serves⟩
  · rintro ⟨mem, rfl⟩
    exact hs.serving_of_mem mem

theorem usable?_iff (hs : i.Sound) :
    usable? i k = some (r, c) ↔ Offers i k r ∧ r.category = some c := by
  rw [usable?_eq_some, offers_iff hs, and_assoc]

theorem leaves_leaving? (hs : i.Sound) (c : Category) : Leaves i c (leaving? i c) := by
  intro b
  constructor
  · intro hl
    obtain ⟨-, hne, hb⟩ := leaving?_eq_some.1 hl
    obtain ⟨d, hd, hserves⟩ := Option.bind_eq_some_iff.1 hb
    obtain ⟨mem, rfl⟩ := (serving_iff hs).1 hserves
    have other : b.category ≠ c := fun he => hne (he ▸ hd)
    exact ⟨mem, other, (leaving?_iff_tracks hs mem other).1 hl⟩
  · rintro ⟨mem, other, tracks⟩
    exact (leaving?_iff_tracks hs mem other).2 tracks

/-- A session that has told the user of other identifiers. -/
def withWarned (s : Session) (ids : List String) : Session := { s with warned := ids }

theorem Warned.unasked {id message : String} (h : Warned s id message new t) :
    (∃ ids, t = s.withWarned ids) ∧ asked new = [] := by
  cases h with
  | silent => exact ⟨⟨s.warned, rfl⟩, rfl⟩
  | told => exact ⟨⟨_, rfl⟩, rfl⟩

theorem withActive_self (live : s.installed = some i) : s.withActive i i.active = s := by
  cases s
  cases live
  rfl

/-- One entry at most is meant, and one adaptor at most serves it. -/
theorem served_unique {r' : Keyboard} {a' : Adaptor} (hs : i.Sound) (offers : Offers i k r)
    (mem : a ∈ i.adaptors) (category : r.category = some a.category) (offers' : Offers i k r')
    (mem' : a' ∈ i.adaptors) (category' : r'.category = some a'.category) : r' = r ∧ a' = a := by
  cases ((offers_iff hs).1 offers).1.symm.trans ((offers_iff hs).1 offers').1
  have same : a.category = a'.category := Option.some.inj (category.symm.trans category')
  have serves := hs.serving_of_mem mem
  rw [same, hs.serving_of_mem mem'] at serves
  exact ⟨rfl, Option.some.inj serves⟩

namespace Dispatch

variable {outcome : Activation} {calls : History} {active : Keyboard}

theorem of_zero (zero : k.isZero = true) : Dispatch o g i k .noKeyboard [] i.active :=
  ⟨fun _ => ⟨rfl, rfl, rfl⟩, by simp [zero], by simp [zero]⟩

theorem of_unserved (nonzero : k.isZero = false)
    (unserved : ∀ r a, Offers i k r → a ∈ i.adaptors → r.category ≠ some a.category) :
    Dispatch o g i k .failed [] i.active :=
  ⟨by simp [nonzero], fun _ _ => ⟨rfl, rfl, rfl⟩,
    fun _ r a offers mem category => (unserved r a offers mem category).elim⟩

/-- Where an adaptor serves an entry that is meant, what it answers settles the rest. -/
theorem of_served (hs : i.Sound) (nonzero : k.isZero = false) (usable : usable? i k = some (r, c))
    (serves : i.serving c = some a)
    (accepted : o (g ++ letting (leaving? i c) i.active) a (.activate r) = .ok () →
      outcome = .activated ∧ active = r ∧
        calls = letting (leaving? i c) i.active ++ [.asked a (.activate r) (.ok ())])
    (refused : ∀ e, o (g ++ letting (leaving? i c) i.active) a (.activate r) = .error e →
      outcome = .failed ∧ active = i.active ∧ ∃ back,
        calls = letting (leaving? i c) i.active ++ [.asked a (.activate r) (.error e)] ++
          restoring (leaving? i c) i.active back) :
    Dispatch o g i k outcome calls active := by
  obtain ⟨offers, category⟩ := (usable?_iff hs).1 usable
  obtain ⟨mem, rfl⟩ := (serving_iff hs).1 serves
  -- the contract is about any entry and adaptor that fit, and these are the only ones
  refine ⟨by simp [nonzero], fun _ none => (none r a offers mem category).elim, ?_⟩
  intro _ r' a' offers' mem' category'
  obtain ⟨rfl, rfl⟩ := served_unique hs offers mem category offers' mem' category'
  exact ⟨_, leaves_leaving? hs _, accepted, refused⟩

end Dispatch

/-- Each way that a request can go is as it should be. -/
theorem Activates.dispatch {x : Activation} (hx : Activates o g s i k x new t)
    (live : s.installed = some i) (hs : i.Sound) : ∃ active warned,
      t = (s.withActive i active).withWarned warned ∧ Dispatch o g i k x (asked new) active := by
  cases hx with
  | zero zero =>
    refine ⟨i.active, s.warned, ?_, .of_zero zero⟩
    rw [withActive_self live]
    rfl
  | absent nonzero unusable warned =>
    obtain ⟨⟨ids, rfl⟩, hnew⟩ := warned.unasked
    rw [hnew]
    refine ⟨i.active, ids, by rw [withActive_self live], .of_unserved nonzero ?_⟩
    intro r a offers mem category
    cases unusable.symm.trans ((usable?_iff hs).2 ⟨offers, category⟩)
  | unserved nonzero usable unserved warned =>
    obtain ⟨⟨ids, rfl⟩, hnew⟩ := warned.unasked
    rw [hnew]
    refine ⟨i.active, ids, by rw [withActive_self live], .of_unserved nonzero ?_⟩
    intro r a offers mem category
    cases usable.symm.trans ((usable?_iff hs).2 ⟨offers, category⟩)
    cases unserved.symm.trans (hs.serving_of_mem mem)
  | activated nonzero usable serves accepts =>
    refine ⟨_, s.warned, rfl, .of_served hs nonzero usable serves ?_ ?_⟩
    · exact fun _ => ⟨rfl, rfl, by simp⟩
    · intro e refuses
      cases accepts.symm.trans refuses
  | refused nonzero usable serves refuses warned =>
    rename_i r c a e back reports
    obtain ⟨⟨ids, rfl⟩, hnew⟩ := warned.unasked
    refine ⟨i.active, ids, by rw [withActive_self live], .of_served hs nonzero usable serves ?_ ?_⟩
    · intro accepts
      cases refuses.symm.trans accepts
    · intro e' refuses'
      cases refuses.symm.trans refuses'
      exact ⟨rfl, rfl, back, by simp [hnew]⟩

/-- In every session that was reached, a request to activate a keyboard calls the adaptors that it
concerns and no others, and changes nothing but the keyboard in use and who was warned of. -/
theorem activation_dispatched (reached : Reached o settings offered cs s g)
    (live : s.installed = some i) (k : Keyboard) : ∃ outcome active warned new,
      (s.perform o.environment (.activate k)).run g =
        ((.activation outcome, (s.withActive i active).withWarned warned), g ++ new) ∧
      Dispatch o g i k outcome (asked new) active := by
  obtain ⟨x, t, new, run, hx⟩ := run_activates (o := o) live k g
  obtain ⟨active, warned, rfl, dispatch⟩ := hx.dispatch live (reached_sound reached live)
  exact ⟨x, active, warned, new, run, dispatch⟩

namespace Sample

/-- Adaptors of which none activates the input method. -/
def unwilling : Oracle := fun h a r =>
  match r with
  | .activate k => if k = pinyin then .error (.unavailable "no engine") else .ok ()
  | r => host [us] h a r

theorem unwilling_opening : ∃ h,
    Reached unwilling {} [system, methods] [] (fresh {} (both [us] .zero)) h := by
  rw [both, Catalog.ofList, Catalog.insertAll_append]
  exact ⟨_, reached_nil.2 rfl⟩

theorem unwilling_us : ∃ h, Reached unwilling {} [system, methods] [.activate us]
    (fresh {} (both [us] us)) h := by
  obtain ⟨h, opened⟩ := unwilling_opening
  have run := run_activate (o := unwilling) (s := fresh {} (both [us] .zero)) (h := h) rfl
    usable?_us rfl rfl rfl
  exact ⟨_, reached_snoc.2 ⟨_, _, _, opened, run⟩⟩

theorem offers_pinyin : Offers (both [us] us) pinyin pinyin := by
  refine ⟨?_, rfl, rfl⟩
  rw [both, Catalog.toList_ofList]
  decide +kernel

/-- The input method is refused. The system layout was let go of for it and comes back. -/
theorem restored_us : ∃ h, Reached unwilling {} [system, methods] [.activate us]
      (fresh {} (both [us] us)) h ∧
    ∃ warned new back, ((fresh {} (both [us] us)).perform unwilling.environment
        (.activate pinyin)).run h =
      ((.activation .failed, (fresh {} (both [us] us)).withWarned warned), h ++ new) ∧
      asked new = [.asked system (.deactivate us) (),
        .asked methods (.activate pinyin) (.error (.unavailable "no engine")),
        .asked system (.activate us) back] := by
  obtain ⟨h, reached⟩ := unwilling_us
  obtain ⟨outcome, active, warned, new, run, dispatch⟩ :=
    activation_dispatched reached rfl pinyin
  obtain ⟨left, leaves, -, refused⟩ := dispatch.served rfl pinyin methods offers_pinyin
    (by decide) rfl
  have hleft : left = some system := (leaves system).2 ⟨by decide, by decide, rfl, rfl⟩
  subst hleft
  obtain ⟨rfl, rfl, back, calls⟩ := refused _ rfl
  exact ⟨h, reached, warned, new, back, run, calls⟩

end Sample

end Session

end Keyboards
