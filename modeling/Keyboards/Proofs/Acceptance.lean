import Keyboards.Proofs.Xkb.Switching
import Keyboards.Simulation.Hosts

/-! Which of the keyboards on offer the adaptors take back. -/

namespace Keyboards

open Simulation Text

variable {σ τ : Type} {k : Keyboard}

namespace Xkb

variable {host : Host (StateM σ)} {s : State} {w : σ}

/-- The host does as it is told, once it was queried. -/
def Host.Obeys (host : Host (StateM σ)) (w : σ) : Prop :=
  ∀ code variant, ((host.setLayout code variant).run (host.query.run w).2).1 = .ok ()

theorem run_current_state (w : σ) : ((current host).run w).2 = (host.query.run w).2 := by
  rw [current, run_bind_eq]
  split
  · rfl
  · split <;> rfl

theorem obeys_of_faithful {w : Traced XkbHost} (h : w.state.Faithful) :
    XkbHost.host.Obeys w := by
  intro code variant
  rw [XkbHost.run_query h, XkbHost.run_setLayout (w := XkbHost.queried w) h]

theorem activate_listed (obeys : host.Obeys w) (listed : ∃ l ∈ s.layouts, l.name = k.layout) :
    ((answer host s (.activate k)).run w).1 = (.ok (), s) := by
  have hany : s.layouts.any (·.name = k.layout) = true := by simpa using listed
  have hswitch : ((switchTo host k.layout).run w).1 = .ok () := by
    rw [switchTo, run_bind_eq]
    split
    · rfl
    · rw [run_current_state]
      exact obeys ..
  rw [answer, activate, if_pos hany, run_bind_eq, hswitch]
  rfl

/-- A keyboard that is not listed is refused, and the host hears nothing of it. -/
theorem activate_unlisted (unlisted : ¬∃ l ∈ s.layouts, l.name = k.layout) :
    (answer host s (.activate k)).run w = ((.error (.unknownKeyboard k.layout), s), w) := by
  have hany : ¬s.layouts.any (·.name = k.layout) = true := by simpa using unlisted
  rw [answer, activate, if_neg hany]
  rfl

end Xkb

namespace Ibus

variable {host : Host (StateM τ)} {s : State} {w : τ}

/-- The host does as it is told, once it was asked for the engine in use. -/
def Host.Obeys (host : Host (StateM τ)) (w : τ) : Prop :=
  ∀ name, ((host.setEngine name).run (host.currentEngine.run w).2).1 = .ok ()

theorem activate_listed (obeys : host.Obeys w) (listed : ∃ e ∈ s.engines, e.name = k.layout) :
    ((answer host s (.activate k)).run w).1 = (.ok (), s) := by
  have hany : s.engines.any (·.name = k.layout) = true := by simpa using listed
  have hswitch : ((switchTo host k.layout).run w).1 = .ok () := by
    rw [switchTo, run_bind_eq]
    split
    · split
      · rfl
      · exact obeys ..
    · exact obeys ..
  rw [answer, activate, if_pos hany, run_bind_eq, hswitch]
  rfl

/-- A keyboard that is not on offer is refused, and the host hears nothing of it. -/
theorem activate_unlisted (unlisted : ¬∃ e ∈ s.engines, e.name = k.layout) :
    (answer host s (.activate k)).run w = ((.error (.unknownKeyboard k.layout), s), w) := by
  have hany : ¬s.engines.any (·.name = k.layout) = true := by simpa using unlisted
  rw [answer, activate, if_neg hany]
  rfl

theorem run_start {w : Traced IbusHost} {engines : List Engine}
    (hlist : w.state.listError = none) (hread : Engine.readList w.state.listing = .ok engines) :
    (answer IbusHost.host s .start).run w = ((.ok (), { s with
      engines := engines.filter fun e => s.settings.includeXkbEngines || !e.isXkb }),
        { w with log := w.log ++ ["ibus host: list_engines"] }) := by
  obtain ⟨⟨present, listing, listError, engine, currentError, setError⟩, log⟩ := w
  cases hlist
  have hlisting : (IbusHost.host.listEngines).run
      ⟨⟨present, listing, none, engine, currentError, setError⟩, log⟩ =
      (.ok listing, ⟨⟨present, listing, none, engine, currentError, setError⟩,
        log ++ ["ibus host: list_engines"]⟩) := rfl
  rw [answer, begin, run_bind_of hlisting]
  dsimp only at hread ⊢
  rw [hread]
  rfl

end Ibus

/-- An adaptor takes a keyboard of its own back if its list has a name spelled in the composed form
that keyboards have, so in particular if the keyboard's own name is composed. Otherwise it refuses
the keyboard. -/
theorem own_keyboard_accepted (xkb : Xkb.Host (StateM σ)) (ibus : Ibus.Host (StateM τ)) :
    (∀ s : Xkb.State, ∀ l ∈ s.layouts, ∀ w, xkb.Obeys w →
      ((Xkb.answer xkb s (.activate (s.keyboardOf l))).run w).1 =
        (if ∃ l' ∈ s.layouts, l'.name = nfc l.name then .ok ()
          else .error (.unknownKeyboard (nfc l.name)), s) ∧
      (nfc l.name = l.name →
        ((Xkb.answer xkb s (.activate (s.keyboardOf l))).run w).1 = (.ok (), s))) ∧
    ∀ s : Ibus.State, ∀ e ∈ s.engines, ∀ w, ibus.Obeys w →
      ((Ibus.answer ibus s (.activate (Ibus.keyboardOf e))).run w).1 =
        (if ∃ e' ∈ s.engines, e'.name = nfc e.name then .ok ()
          else .error (.unknownKeyboard (nfc e.name)), s) ∧
      (nfc e.name = e.name →
        ((Ibus.answer ibus s (.activate (Ibus.keyboardOf e))).run w).1 = (.ok (), s)) := by
  refine ⟨fun s l hl w obeys => ⟨?_, ?_⟩, fun s e he w obeys => ⟨?_, ?_⟩⟩
  · split
    next listed => exact Xkb.activate_listed obeys listed
    next unlisted => rw [Xkb.activate_unlisted unlisted]; rfl
  · exact fun hnfc => Xkb.activate_listed obeys ⟨l, hl, hnfc.symm⟩
  · split
    next listed => exact Ibus.activate_listed obeys listed
    next unlisted => rw [Ibus.activate_unlisted unlisted]; rfl
  · exact fun hnfc => Ibus.activate_listed obeys ⟨e, he, hnfc.symm⟩

namespace Sample

def pinyin : Ibus.Engine := ⟨"pinyin", "Intelligent Pinyin", "Chinese"⟩

theorem nfc_pinyin : nfc pinyin.name = pinyin.name := by
  decide +kernel

theorem nfc_noDeadKeys : nfc Xkb.Sample.noDeadKeys.name = Xkb.Sample.noDeadKeys.name := by
  decide +kernel

end Sample

/-- Both adaptors take a keyboard with a plain name. -/
theorem own_keyboard_accepted_plain :
    ((Xkb.answer XkbHost.host { layouts := [Xkb.Sample.noDeadKeys] }
      (.activate (Xkb.State.keyboardOf { layouts := [Xkb.Sample.noDeadKeys] }
        Xkb.Sample.noDeadKeys))).run ⟨Xkb.Sample.german, []⟩).1.1 = .ok () ∧
    ((Ibus.answer IbusHost.host { engines := [Sample.pinyin] }
      (.activate (Ibus.keyboardOf Sample.pinyin))).run ⟨{}, []⟩).1.1 = .ok () := by
  obtain ⟨layouts, engines⟩ := own_keyboard_accepted XkbHost.host IbusHost.host
  have hlayout := (layouts { layouts := [Xkb.Sample.noDeadKeys] } Xkb.Sample.noDeadKeys (.head _)
    ⟨Xkb.Sample.german, []⟩ (Xkb.obeys_of_faithful Xkb.Sample.faithful_german)).2
  have hengine := (engines { engines := [Sample.pinyin] } Sample.pinyin (.head _) ⟨{}, []⟩
    fun _ => rfl).2
  rw [hlayout Sample.nfc_noDeadKeys, hengine Sample.nfc_pinyin]
  exact ⟨rfl, rfl⟩

namespace Sample

/-- A layout whose name holds a letter and its mark apart. -/
def cedilla : Xkb.Layout := ⟨"c\u0327x", none, "Cedilla"⟩

def cedillas : XkbHost where
  rules := "! layout\n  c\u0327x  Cedilla\n"

/-- An engine with such a name. -/
def cedillaEngine : Ibus.Engine := ⟨"c\u0327x", "Cedilla", "Cedilla"⟩

def cedillaEngines : IbusHost where
  listing := "language: Cedilla\n  c\u0327x - Cedilla\n"

theorem read_cedillas : Xkb.Rules.read cedillas.rules = .ok [cedilla] := by
  decide +kernel

theorem read_cedillaEngines :
    Ibus.Engine.readList cedillaEngines.listing = .ok [cedillaEngine] := by
  decide +kernel

theorem nfc_cedilla : nfc "c\u0327x" = "\u00e7x" := by
  decide +kernel

end Sample

/-- Neither adaptor takes a keyboard back whose name was composed for it. -/
theorem own_keyboard_refused :
    (¬∀ (s t : Xkb.State) (w₀ w₁ : Traced XkbHost), w₀.state.Faithful →
      (Xkb.answer XkbHost.host s .start).run w₀ = ((.ok (), t), w₁) → ∀ l ∈ t.layouts,
      ((Xkb.answer XkbHost.host t (.activate (t.keyboardOf l))).run w₁).1.1 = .ok ()) ∧
    ¬∀ (s t : Ibus.State) (w₀ w₁ : Traced IbusHost), IbusHost.host.Obeys w₀ →
      (Ibus.answer IbusHost.host s .start).run w₀ = ((.ok (), t), w₁) → ∀ e ∈ t.engines,
      ((Ibus.answer IbusHost.host t (.activate (Ibus.keyboardOf e))).run w₁).1.1 = .ok () := by
  constructor
  · intro always
    have hok := always {} _ ⟨Sample.cedillas, []⟩ _ ⟨rfl, rfl, rfl⟩
      (Xkb.run_start ⟨rfl, rfl, rfl⟩ rfl Sample.read_cedillas) Sample.cedilla (.head _)
    rw [Xkb.activate_unlisted] at hok
    · cases hok
    · change ¬∃ l ∈ [Sample.cedilla], l.name = nfc "c\u0327x"
      rw [Sample.nfc_cedilla]
      decide
  · intro always
    have hok := always {} _ ⟨Sample.cedillaEngines, []⟩ _ (fun _ => rfl)
      (Ibus.run_start rfl Sample.read_cedillaEngines) Sample.cedillaEngine (.head _)
    rw [Ibus.activate_unlisted] at hok
    · cases hok
    · change ¬∃ e ∈ [Sample.cedillaEngine], e.name = nfc "c\u0327x"
      rw [Sample.nfc_cedilla]
      decide

end Keyboards
