import Mathlib.Data.Option.Basic
import Keyboards.Proofs.Session.Dispatch
import Keyboards.Proofs.Session.Disposal
import Keyboards.Proofs.WritingSystem.Resolution

/-! What a session stores on a writing system whose keyboard it activates. -/

namespace Keyboards

namespace Catalog

variable {c : Catalog} {k : Keyboard} {layout locale id : String}

theorem mem_of_get? (h : c.get? layout locale = some k) : k ∈ c.toList := by
  obtain ⟨n, -, hn⟩ := Option.bind_eq_some_iff.1 h
  exact Array.mem_toList_iff.2 (Array.mem_of_getElem? hn)

theorem mem_of_getId? (h : c.getId? id = some k) : k ∈ c.toList := by
  rw [getId?] at h
  split at h
  · exact Array.mem_toList_iff.2 (Array.mem_of_getElem? h)
  · split at h
    · exact mem_of_get? h
    · cases h

theorem mem_of_find? {p : Keyboard → Bool} (h : c.find? p = some k) : k ∈ c.toList :=
  List.mem_of_find?_eq_some h

end Catalog

namespace WritingSystem

variable {c : Catalog} {k : Keyboard} {ws : WritingSystem}

theorem mem_of_legacyById? {id : Nat} {name : Option String}
    (h : legacyById? c id name = some k) : k ∈ c.toList := by
  cases name with
  | none => exact Catalog.mem_of_find? h
  | some name =>
    obtain ⟨locale, -, hget⟩ := Option.bind_eq_some_iff.1 h
    exact Catalog.mem_of_get? hget

theorem mem_of_legacyByName? {name : String} (h : legacyByName? c name = some k) :
    k ∈ c.toList := by
  simp only [legacyByName?, Option.orElse_eq_some] at h
  obtain hid | ⟨-, hkey | ⟨-, hname | ⟨-, hlayout⟩⟩⟩ := h
  · split at hid
    · exact Catalog.mem_of_getId? hid
    · cases hid
  · exact Catalog.mem_of_get? hkey
  · exact Catalog.mem_of_find? hname
  · exact Catalog.mem_of_find? hlayout

/-- In whatever way an old record names a keyboard, it names an entry of the catalog. -/
theorem mem_of_legacy? (h : ws.legacy? c = some k) : k ∈ c.toList := by
  simp only [legacy?, Option.orElse_eq_some, Option.bind_eq_some_iff] at h
  obtain ⟨id, -, hid⟩ | ⟨-, name, -, hname⟩ := h
  · exact mem_of_legacyById? hid
  · exact mem_of_legacyByName? hname

theorem chosen_of_keyboard (h : ws.keyboard = some k) : ws.chosen = k := by
  rw [chosen, h]
  rfl

/-- No keyboard is chosen, or only zero. -/
def Undecided (ws : WritingSystem) : Prop := ∀ k, ws.keyboard = some k → k.isZero = true

theorem undecided_iff : ws.Undecided ↔ ws.chosen.isZero = true := by
  cases h : ws.keyboard with
  | none => simp [Undecided, chosen, h, Keyboard.isZero, Keyboard.zero]
  | some k => simp [Undecided, chosen, h]

end WritingSystem

namespace Session

open History

variable {o : Oracle} {settings : SessionSettings} {offered : List Adaptor} {cs : List Command}
  {s t : Session} {i : Installed} {g new : History} {ws ws' : WritingSystem} {k : Keyboard}

/-- The obsolete fields name an entry, and the settings let them. -/
def Names (s : Session) (i : Installed) (ws : WritingSystem) (r : Keyboard) : Prop :=
  s.settings.legacyLookup = true ∧ ws.legacy? i.catalog = some r

/-- What becomes of a writing system before its keyboard is activated. -/
inductive Adopts (s : Session) (i : Installed) (ws : WritingSystem) : WritingSystem → Prop where
  | own {k : Keyboard} (chosen : ws.keyboard = some k) (nonzero : k.isZero = false) :
      Adopts s i ws ws
  | found {r : Keyboard} (undecided : ws.Undecided) (named : s.Names i ws r) :
      Adopts s i ws { ws with keyboard := some r }
  | missing (undecided : ws.Undecided) (unnamed : ∀ r, ¬ s.Names i ws r) : Adopts s i ws ws

theorem adopts (live : s.installed = some i) (ws : WritingSystem) :
    ∃ ws', s.adopt ws = .ok ws' ∧ Adopts s i ws ws' := by
  have hchosen : s.chosenFor ws = .ok ws.chosen := by
    rw [chosenFor, get, live]
    rfl
  have hlegacy : s.legacyFor ws =
      .ok (if s.settings.legacyLookup then ws.legacy? i.catalog else none) := by
    rw [legacyFor, catalog, get, live]
    rfl
  rw [adopt, hchosen]
  dsimp only
  by_cases zero : ws.chosen.isZero = true
  · have undecided : ws.Undecided := WritingSystem.undecided_iff.2 zero
    rw [if_pos zero, hlegacy]
    cases found : (if s.settings.legacyLookup then ws.legacy? i.catalog else none) with
    | none =>
      refine ⟨ws, rfl, .missing undecided ?_⟩
      rintro r ⟨allowed, named⟩
      rw [if_pos allowed, named] at found
      cases found
    | some r =>
      refine ⟨_, rfl, .found undecided ?_⟩
      split at found
      · exact ⟨‹_›, found⟩
      · cases found
  · rw [if_neg zero]
    rw [Bool.not_eq_true] at zero
    cases held : ws.keyboard with
    | none => simp [WritingSystem.chosen, held, Keyboard.isZero, Keyboard.zero] at zero
    | some k =>
      rw [WritingSystem.chosen_of_keyboard held] at zero
      exact ⟨ws, rfl, .own held zero⟩

/-- The request comes to the one for the keyboard that the writing system has by then. -/
theorem run_activateFor (live : s.installed = some i) (taken : s.adopt ws = .ok ws')
    (g : History) : ∃ x t new,
      (s.perform o.environment (.activateFor ws)).run g =
        ((.activationFor (.ok x) ws', t), g ++ new) ∧
      (s.perform o.environment (.activate ws'.chosen)).run g = ((.activation x, t), g ++ new) ∧
      Activates o g s i ws'.chosen x new t := by
  obtain ⟨⟨_, t⟩, new, run, x, rfl, hx⟩ := activates (o := o) live ws'.chosen g
  have hrun : (s.perform o.environment (.activate ws'.chosen)).run g =
      let p := s.activate o.environment ws'.chosen g; ((.of .activation p.1.1, p.1.2), p.2) := rfl
  have hfor : (s.perform o.environment (.activateFor ws)).run g =
      let p := s.activateFor o.environment ws g
      ((.activationFor p.1.1.1 p.1.1.2, p.1.2), p.2) := rfl
  have htaken : s.activateFor o.environment ws g =
      let p := s.activate o.environment ws'.chosen g; (((p.1.1, ws'), p.1.2), p.2) := by
    rw [activateFor, taken]
    rfl
  rw [hfor, htaken, hrun, run]
  exact ⟨x, t, new, rfl, rfl, hx⟩

theorem Activates.of_zero {x : Activation} (hx : Activates o g s i k x new t)
    (zero : k.isZero = true) : x = .noKeyboard ∧ new = [] ∧ t = s := by
  cases hx with
  | zero => exact ⟨rfl, rfl, rfl⟩
  | absent nonzero | unserved nonzero | activated nonzero | refused nonzero =>
    cases nonzero.symm.trans zero

/-- A warning asks no one. -/
theorem Warned.asks {P : Adaptor → Request → Prop} {id message : String}
    (h : Warned s id message new t) : Asks P new := by
  intro a r answer he
  cases h <;> simp at he

/-- No one is asked but to switch keyboards. -/
theorem Activates.asks {x : Activation} (hx : Activates o g s i k x new t) :
    Asks (fun _ r => r.isSwitch = true) new := by
  cases hx with
  | zero =>
    intro a r answer he
    simp at he
  | absent _ _ warned => exact warned.asks
  | unserved _ _ _ warned => exact warned.asks
  | activated =>
    exact asks_append.2 ⟨asks_letting fun _ _ => rfl, asks_singleton rfl⟩
  | refused _ _ _ _ warned =>
    exact asks_append.2 ⟨asks_letting fun _ _ => rfl, asks_append.2 ⟨asks_singleton rfl,
      asks_append.2 ⟨asks_restoring fun _ _ => rfl, warned.asks⟩⟩⟩

/-- What a request to activate the keyboard of a writing system comes to after some history: its
outcome, the writing system that comes back, the session afterwards and the events. -/
structure WrittenBack (o : Oracle) (g : History) (s : Session) (i : Installed) (ws : WritingSystem)
    (outcome : Activation) (ws' : WritingSystem) (new : History) (t : Session) : Prop where
  /-- With a keyboard of its own the obsolete fields do not matter. -/
  own : ∀ k, ws.keyboard = some k → k.isZero = false → ws' = ws ∧
    (s.perform o.environment (.activate k)).run g = ((.activation outcome, t), g ++ new)
  /-- What the obsolete fields name is stored, whether or not it can be activated. -/
  found : ws.Undecided → ∀ r, s.Names i ws r → ws' = { ws with keyboard := some r } ∧
    r ∈ i.catalog.toList ∧ i.catalog.get? r.layout r.locale = some r ∧
    (s.perform o.environment (.activate r)).run g = ((.activation outcome, t), g ++ new)
  missing : ws.Undecided → (∀ r, ¬ s.Names i ws r) →
    ws' = ws ∧ outcome = .noKeyboard ∧ new = [] ∧ t = s
  /-- No other keyboard is ever stored. -/
  kept : ∀ k, ws'.keyboard = some k → ws.keyboard = some k ∨ s.Names i ws k
  /-- The system default is not even asked for. -/
  undefaulted : Asks (fun _ r => r ≠ .defaultKeyboard) new

/-- Each way to take a keyboard leads to what should be written back. -/
theorem Adopts.writtenBack {x : Activation} (h : Adopts s i ws ws') (hs : i.Sound)
    (hx : Activates o g s i ws'.chosen x new t)
    (run : (s.perform o.environment (.activate ws'.chosen)).run g =
      ((.activation x, t), g ++ new)) : WrittenBack o g s i ws x ws' new t := by
  have hasks : Asks (fun _ r => r ≠ .defaultKeyboard) new := by
    refine hx.asks.mono fun a r hr => ?_
    rintro rfl
    cases hr
  cases h with
  | own held nonzero =>
    rw [WritingSystem.chosen_of_keyboard held] at run
    have decided : ¬ ws.Undecided := fun undecided => by
      cases nonzero.symm.trans (undecided _ held)
    refine ⟨?_, fun hu => (decided hu).elim, fun hu => (decided hu).elim, ?_, hasks⟩
    · intro k hk _
      cases held.symm.trans hk
      exact ⟨rfl, run⟩
    · exact fun k hk => .inl hk
  | found undecided named =>
    refine ⟨?_, ?_, fun _ none => (none _ named).elim, ?_, hasks⟩
    · intro k hk nonzero
      cases nonzero.symm.trans (undecided k hk)
    · intro _ r named'
      cases named.2.symm.trans named'.2
      have hmem := WritingSystem.mem_of_legacy? named.2
      exact ⟨rfl, hmem, Catalog.get?_of_mem hs.indexed hmem, run⟩
    · intro k hk
      cases hk
      exact .inr named
  | missing undecided unnamed =>
    refine ⟨?_, fun _ r named => (unnamed r named).elim, ?_, ?_, hasks⟩
    · intro k hk nonzero
      cases nonzero.symm.trans (undecided k hk)
    · intro _ _
      obtain ⟨rfl, rfl, rfl⟩ := hx.of_zero (WritingSystem.undecided_iff.1 undecided)
      exact ⟨rfl, rfl, rfl, rfl⟩
    · exact fun k hk => .inl hk

/-- In every session that was reached, a request to activate the keyboard of a writing system is a
request for the keyboard that it has, or else for the entry that its obsolete fields name, which is
stored on it before anything can go wrong. Nothing else is ever stored. -/
theorem written_back (reached : Reached o settings offered cs s g) (ws : WritingSystem) :
    (∀ i, s.installed = some i → ∃ outcome ws' t new,
      (s.perform o.environment (.activateFor ws)).run g =
        ((.activationFor (.ok outcome) ws', t), g ++ new) ∧
      WrittenBack o g s i ws outcome ws' new t) ∧
    (s.installed = none → (s.perform o.environment (.activateFor ws)).run g =
      ((.activationFor (.error .disposed) ws, s), g)) := by
  refine ⟨fun i live => ?_, fun gone => ?_⟩
  · obtain ⟨ws', taken, adopted⟩ := adopts live ws
    obtain ⟨x, t, new, hfor, run, hx⟩ := run_activateFor (o := o) live taken g
    exact ⟨x, ws', t, new, hfor, adopted.writtenBack (reached_sound reached live) hx run⟩
  · rw [perform_gone gone]
    rfl

namespace Sample

theorem scanned_both : Catalog.Scanned (both [us] us).catalog := by
  have composed : ∀ k ∈ [us, pinyin], k.Composed := by
    simp only [List.forall_mem_cons, List.not_mem_nil, false_implies, implies_true, and_true]
    exact ⟨⟨by decide +kernel, by decide +kernel⟩, by decide +kernel, by decide +kernel⟩
  exact (Catalog.scanned_empty.step (u := .extend [us, pinyin]) composed).1

/-- An old record that names the input method. -/
def chinese : WritingSystem := { languageTag := "zh", keyboardName := some "pinyin-zh-CN" }

theorem names_pinyin : (fresh {} (both [us] us)).Names (both [us] us) chinese pinyin := by
  refine ⟨rfl, ?_⟩
  have hname : chinese.legacy? (both [us] us).catalog =
      WritingSystem.legacyByName? (both [us] us).catalog "pinyin-zh-CN" := rfl
  rw [hname, scanned_both.legacyByName?_eq, both, Catalog.toList_ofList]
  decide +kernel

/-- The input method is stored although it is refused. -/
theorem written_back_refused : ∃ h, Reached unwilling {} [system, methods] [.activate us]
      (fresh {} (both [us] us)) h ∧
    ∃ t new, ((fresh {} (both [us] us)).perform unwilling.environment
        (.activateFor chinese)).run h =
      ((.activationFor (.ok .failed) { chinese with keyboard := some pinyin }, t), h ++ new) := by
  obtain ⟨h, reached⟩ := unwilling_us
  obtain ⟨outcome, ws', t, new, run, written⟩ := (written_back reached chinese).1 _ rfl
  have undecided : chinese.Undecided := fun k hk => by cases hk
  obtain ⟨rfl, -, -, same⟩ := written.found undecided pinyin names_pinyin
  have live : (fresh {} (both [us] us)).installed = some (both [us] us) := rfl
  obtain ⟨x, t', new', again, hx⟩ := run_activates (o := unwilling) live pinyin h
  have houtcome : Reply.activation outcome = .activation x :=
    congrArg (·.1.1) (same.symm.trans again)
  cases houtcome
  have usable := (usable?_iff (reached_sound reached rfl)).2 ⟨offers_pinyin, rfl⟩
  obtain ⟨accepts, -⟩ | ⟨e, back, reports, -, rfl, -⟩ := hx.of_serves rfl usable rfl
  · cases accepts
  · exact ⟨h, reached, t, new, run⟩

end Sample

end Session

end Keyboards
