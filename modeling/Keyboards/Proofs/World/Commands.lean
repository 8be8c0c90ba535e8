import Keyboards.Proofs.Session.Runs
import Keyboards.Proofs.World.Histories

/-! Whatever a session does in a world it does as a history tells. -/

namespace Keyboards.Simulation.World

open Session

variable (w : World) (s : Session) (i : Installed)

theorem follows_warnOnce (id message : String) :
    w.Follows fun env => s.warnOnce env id message := by
  unfold warnOnce
  by_cases hq : (!s.settings.notifyUnresolved || s.warned.contains id) = true
  · simp only [if_pos hq]
    exact .pure w s
  · simp only [if_neg hq]
    exact (Follows.report w _).bind fun _ => .pure w _

theorem follows_defaultOf : w.Follows fun env => defaultOf env i := by
  refine (Follows.ask w i.primary .defaultKeyboard).bind fun found => ?_
  cases found with
  | none => exact .pure w _
  | some k => exact .pure w _

theorem follows_defaultKeyboard : w.Follows fun env => s.defaultKeyboard env := by
  unfold defaultKeyboard
  cases s.installed with
  | none => exact .pure w _
  | some i => exact (follows_defaultOf w i).map _

theorem follows_describe (layout locale : String) :
    w.Follows fun env => s.describe env layout locale := by
  unfold describe
  cases s.installed with
  | none => exact .pure w _
  | some i =>
    cases found : i.catalog.get? layout locale with
    | some k =>
      simp only [found]
      exact .pure w _
    | none =>
      simp only [found]
      exact (Follows.ask w i.primary (.describe layout locale)).map _

theorem follows_defaultFor (ws : WritingSystem) :
    w.Follows fun env => s.defaultFor env ws := by
  unfold defaultFor
  cases s.legacyFor ws with
  | error e => exact .pure w _
  | ok found =>
    cases found with
    | some k => exact .pure w _
    | none => exact follows_defaultKeyboard w s

theorem follows_activeKeyboard : w.Follows fun env => s.activeKeyboard env := by
  unfold activeKeyboard
  cases s.installed with
  | none => exact .pure w _
  | some i =>
    by_cases hq : (i.active.isZero && s.settings.queryHostActive) = true
    · simp only [if_pos hq]
      refine (Follows.ask w i.primary .activeKeyboard).bind fun answer => ?_
      cases answer.bind fun p => i.catalog.get? p.1 p.2 with
      | some k => exact .pure w _
      | none => exact .pure w _
    · simp only [if_neg hq]
      exact .pure w _

/-- What concerns at most one adaptor. -/
theorem follows_forM {x : Option Adaptor}
    {f : Adaptor → {m : Type → Type} → [Monad m] → Environment m → m Unit}
    (hf : ∀ a, w.Follows (f a)) : w.Follows fun env => x.forM fun a => f a env := by
  cases x with
  | none => exact .pure w ()
  | some a => exact hf a

theorem follows_handOver (i : Installed) (c : Category) (r : Keyboard) :
    w.Follows fun env => handOver env i c r := by
  unfold handOver
  refine (follows_forM w fun b => .ask w b (.deactivate i.active)).bind fun _ => ?_
  cases i.serving c with
  | none => exact .pure w none
  | some a => exact (Follows.ask w a (.activate r)).map some

theorem follows_activate (k : Keyboard) : w.Follows fun env => s.activate env k := by
  unfold activate
  cases s.installed with
  | none => exact .pure w _
  | some i =>
    by_cases hz : k.isZero = true
    · simp only [if_pos hz]
      exact .pure w _
    simp only [if_neg hz]
    cases usable? i k with
    | none => exact (follows_warnOnce w s _ _).bind fun _ => .pure w _
    | some rc =>
      obtain ⟨r, c⟩ := rc
      by_cases unserved : (i.serving c).isNone = true
      · simp only [if_pos unserved]
        exact (follows_warnOnce w s _ _).bind fun _ => .pure w _
      simp only [if_neg unserved]
      refine (follows_handOver w i c r).bind fun outcome => ?_
      match outcome with
      | none | some (.ok ()) => exact .pure w _
      | some (.error e) =>
        refine (follows_forM w fun b => ?_).bind fun _ => ?_
        · exact (Follows.ask w b (.activate i.active)).map _
        · exact (follows_warnOnce w s _ _).bind fun _ => .pure w _

theorem follows_activateFound (found : Except SessionError Keyboard) :
    w.Follows fun env => s.activateFound env found := by
  cases found with
  | error e => exact .pure w _
  | ok k => exact follows_activate w s k

theorem follows_activateId (id : String) : w.Follows fun env => s.activateId env id := by
  unfold activateId
  cases s.resolve id with
  | error e => exact .pure w _
  | ok k =>
    by_cases hz : k.isZero = true
    · simp only [if_pos hz]
      exact (follows_warnOnce w s _ _).bind fun _ => .pure w _
    · simp only [if_neg hz]
      exact follows_activate w s k

theorem follows_activateDefault : w.Follows fun env => s.activateDefault env :=
  (follows_defaultKeyboard w s).bind fun found => follows_activateFound w s found

theorem follows_activateDescribed (layout locale : String) :
    w.Follows fun env => s.activateDescribed env layout locale :=
  (follows_describe w s layout locale).bind fun found => follows_activateFound w s found

theorem follows_activateFor (ws : WritingSystem) :
    w.Follows fun env => s.activateFor env ws := by
  unfold activateFor
  cases s.adopt ws with
  | error e => exact .pure w _
  | ok ws => exact (follows_activate w s ws.chosen).bind fun _ => .pure w _

theorem follows_deactivate : w.Follows fun env => s.deactivate env := by
  unfold deactivate
  cases s.installed with
  | none => exact .pure w _
  | some i =>
    by_cases hz : (!i.active.isZero) = true
    · simp only [if_pos hz]
      exact (follows_forM w fun b => .ask w b (.deactivate i.active)).bind fun _ => .pure w _
    · simp only [if_neg hz]
      exact .pure w _

theorem follows_deliver (e : FocusEvent) : w.Follows fun env => s.deliver env i e :=
  (Follows.forM (fun a => .ask w a (.focus e)) i.adaptors).bind fun _ =>
    .forM (fun l => .tell w l e) s.listeners

theorem follows_register (t : FocusTarget) (handler : Option Handler) :
    w.Follows fun env => s.register env t handler := by
  unfold register
  cases s.installed with
  | none => exact .pure w _
  | some i => exact (follows_deliver w s i _).bind fun _ => .pure w _

theorem follows_unregister (t : FocusTarget) : w.Follows fun env => s.unregister env t := by
  unfold unregister
  cases s.installed with
  | none => exact .pure w _
  | some i =>
    by_cases hk : s.targets.contains t = true
    · simp only [if_pos hk]
      exact (follows_deliver w s i _).bind fun _ => .pure w _
    · simp only [if_neg hk]
      exact .pure w _

theorem follows_insteadOf (a : Option Adaptor) : w.Follows fun env => insteadOf env a := by
  cases a with
  | none => exact .pure w _
  | some a =>
    refine (Follows.ask w a .setupIsExtra).bind fun extra => ?_
    cases extra with
    | true => exact .pure w _
    | false => exact .ask w a .setupProgram

theorem follows_extraOf (a : Option Adaptor) : w.Follows fun env => extraOf env a := by
  cases a with
  | none => exact .pure w _
  | some a =>
    refine (Follows.ask w a .setupIsExtra).bind fun extra => ?_
    cases extra with
    | true => exact .ask w a .setupProgram
    | false => exact .pure w _

theorem follows_isExtra (a : Option Adaptor) : w.Follows fun env => isExtra env a := by
  cases a with
  | none => exact .pure w _
  | some a => exact .ask w a .setupIsExtra

theorem follows_setupProgram : w.Follows fun env => s.setupProgram env := by
  unfold setupProgram
  cases s.installed with
  | none => exact .pure w _
  | some i =>
    refine (follows_insteadOf w i.secondary).bind fun found => ?_
    cases found with
    | some p => exact .pure w _
    | none => exact (Follows.ask w i.primary .setupProgram).map _

theorem follows_extraSetupProgram : w.Follows fun env => s.extraSetupProgram env := by
  unfold extraSetupProgram
  cases s.installed with
  | none => exact .pure w _
  | some i => exact (follows_extraOf w i.secondary).map _

theorem follows_hasExtraSetupProgram : w.Follows fun env => s.hasExtraSetupProgram env := by
  unfold hasExtraSetupProgram
  cases s.installed with
  | none => exact .pure w _
  | some i => exact (follows_isExtra w i.secondary).map _

theorem follows_setupFacts : w.Follows fun env => s.setupFacts env := by
  refine (follows_setupProgram w s).bind fun main => ?_
  refine (follows_extraSetupProgram w s).bind fun extra => ?_
  refine (follows_hasExtraSetupProgram w s).bind fun hasExtra => ?_
  cases main <;> cases extra <;> cases hasExtra <;> exact .pure w _

theorem follows_closeAll (as : List Adaptor) : w.Follows fun env => closeAll env as :=
  .forM (fun a => .ask w a .close) as

theorem follows_select (offered : List Adaptor) : w.Follows fun env => select env offered := by
  refine .foldlM (fun chosen a => (Follows.ask w a .isApplicable).bind fun applicable => ?_) _ _
  cases applicable with
  | true => exact .pure w _
  | false => exact .pure w _

theorem follows_startAdaptor (a : Option Adaptor) : w.Follows fun env => startAdaptor env a := by
  cases a with
  | none => exact .pure w _
  | some a =>
    refine (Follows.ask w a .start).bind fun answer => ?_
    cases answer with
    | ok => exact .pure w _
    | error e => exact (Follows.ask w a .close).bind fun _ => .pure w _

theorem follows_enumerate (as : List Adaptor) : w.Follows fun env => enumerate env as := by
  refine .foldlM (fun c a => (Follows.ask w a .enumerate).bind fun answer => ?_) _ _
  cases answer with
  | ok keyboards => exact .pure w _
  | error e => exact .pure w _

theorem follows_install (offered : List Adaptor) : w.Follows fun env => install env offered := by
  refine (follows_select w offered).bind fun chosen => ?_
  refine (follows_closeAll w chosen.unused).bind fun _ => ?_
  refine (follows_startAdaptor w chosen.primary).bind fun primary => ?_
  refine (follows_startAdaptor w chosen.secondary).bind fun secondary => ?_
  cases primary with
  | none => exact (follows_closeAll w secondary.toList).bind fun _ => .pure w _
  | some primary => exact (follows_enumerate w (primary :: secondary.toList)).bind fun _ => .pure w _

theorem follows_reportAdaptors : w.Follows fun env => reportAdaptors env i :=
  (Follows.report w _).bind fun _ => .report w _

/-- The opening of a session. -/
theorem follows_start (settings : SessionSettings) (offered : List Adaptor) :
    w.Follows fun env => start env settings offered := by
  refine (follows_install w offered).bind fun result => ?_
  cases result with
  | error e => exact (Follows.report w _).bind fun _ => .pure w _
  | ok i => exact (follows_reportAdaptors w i).bind fun _ => .pure w _

theorem follows_announce (as : List Adaptor) (t : FocusTarget × Option Handler) :
    w.Follows fun env => announce env as t :=
  .forM (fun a => .ask w a (.focus (.added t.1 t.2))) as

theorem follows_replaceAdaptors (offered : List Adaptor) :
    w.Follows fun env => s.replaceAdaptors env offered := by
  unfold replaceAdaptors
  cases s.installed with
  | none => exact .pure w _
  | some old =>
    refine (follows_install w offered).bind fun result => ?_
    cases result with
    | error e => exact .pure w _
    | ok i =>
      refine (Follows.forM (follows_announce w i.adaptors) s.targets).bind fun _ => ?_
      refine (follows_closeAll w old.adaptors).bind fun _ => ?_
      exact (follows_reportAdaptors w i).bind fun _ => .pure w _

theorem follows_refresh : w.Follows fun env => s.refresh env := by
  unfold refresh
  cases s.installed with
  | none => exact .pure w _
  | some i => exact (follows_enumerate w i.adaptors).bind fun _ => .pure w _

theorem follows_shutDown : w.Follows fun env => s.shutDown env := by
  unfold shutDown
  cases s.installed with
  | none => exact .pure w _
  | some i => exact (follows_closeAll w i.adaptors).bind fun _ => .pure w _

/-- Any command. -/
theorem follows_perform (c : Command) : w.Follows fun env => s.perform env c := by
  cases c with
  | resolve | lookup | chosenFor | ofLanguage => exact .pure w _
  | allKeyboards | availableKeyboards | legacyFor | size => exact .pure w _
  | adaptorNames | settings | isDisposed | listen => exact .pure w _
  | isRegistered | handlerOf | targetCount => exact .pure w _
  | describe layout locale => exact (follows_describe w s layout locale).bind fun _ => .pure w _
  | defaultKeyboard => exact (follows_defaultKeyboard w s).bind fun _ => .pure w _
  | activeKeyboard => exact (follows_activeKeyboard w s).bind fun _ => .pure w _
  | defaultFor ws => exact (follows_defaultFor w s ws).bind fun _ => .pure w _
  | activate k => exact (follows_activate w s k).bind fun _ => .pure w _
  | activateId id => exact (follows_activateId w s id).bind fun _ => .pure w _
  | activateKey => exact (follows_activateFound w s _).bind fun _ => .pure w _
  | activateLanguage => exact (follows_activateFound w s _).bind fun _ => .pure w _
  | activateDefault => exact (follows_activateDefault w s).bind fun _ => .pure w _
  | activateDescribed layout locale =>
    exact (follows_activateDescribed w s layout locale).bind fun _ => .pure w _
  | activateFor ws => exact (follows_activateFor w s ws).bind fun _ => .pure w _
  | deactivate => exact (follows_deactivate w s).bind fun _ => .pure w _
  | setup => exact (follows_setupFacts w s).bind fun _ => .pure w _
  | register t handler => exact (follows_register w s t handler).bind fun _ => .pure w _
  | unregister t => exact (follows_unregister w s t).bind fun _ => .pure w _
  | replaceAdaptors offered => exact (follows_replaceAdaptors w s offered).bind fun _ => .pure w _
  | refresh => exact (follows_refresh w s).bind fun _ => .pure w _
  | shutDown => exact (follows_shutDown w s).bind fun _ => .pure w _

end Keyboards.Simulation.World
