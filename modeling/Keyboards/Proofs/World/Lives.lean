import Keyboards.Proofs.Text.Composition
import Keyboards.Proofs.World.Actors

/-! Sessions that live in a world in which others change the hosts at any time. -/

namespace Keyboards

open History Simulation

/-- Whether a command put other adaptors in place. -/
def Command.replaced : Command → Reply → Bool
  | .replaceAdaptors _, .done => true
  | _, _ => false

/-- No entry is found under an empty key. -/
theorem Catalog.get?_zero {c : Catalog} (h : c.Indexed) :
    c.get? Keyboard.zero.layout Keyboard.zero.locale = none := by
  refine Catalog.get?_eq_none h fun k hk hkey => ?_
  obtain ⟨hlayout, hlocale⟩ := Prod.mk.inj hkey
  have hempty : ∀ s, Text.nfc s = Text.nfc "" → s = "" := fun s hs =>
    Text.nfc_eq_empty.1 (hs.trans (Text.nfc_eq_empty.2 rfl))
  have hzero : k.isZero = true := by
    simp [Keyboard.isZero, hempty _ hlayout, hempty _ hlocale]
  exact absurd hzero (by simp [h.nonzero k hk])

theorem Command.replaced_of_isPlain {c : Command} {reply : Reply} (h : c.isPlain = true) :
    c.replaced reply = false := by
  cases c <;> first | rfl | cases h

/-- Layout and locale of the keyboard in use. -/
def Session.inUse? (s : Session) : Option (String × String) := s.installed.map (·.active.key)

namespace Simulation

/-- The state that others give to a host. -/
inductive HostChange where
  | xkb (host : XkbHost)
  | ibus (host : IbusHost)

/-- The actor over a changed host, if it is one of its kind. -/
def Actor.changed : HostChange → Actor → Actor
  | .xkb host, xkb _ state => xkb host state
  | .ibus host, ibus _ state => ibus host state
  | _, x => x

theorem Actor.bare_changed (x : HostChange) (y : Actor) : (y.changed x).bare = y.bare := by
  cases x <;> cases y <;> rfl

namespace World

/-- The world once others changed the host of an actor. -/
def change (w : World) (n : Nat) (x : HostChange) : World :=
  { w with actors := w.actors.modify n (Actor.changed x) }

theorem actor_change (w : World) (m n : Nat) (x : HostChange) :
    (w.change m x).actor n = if m = n then (w.actor n).changed x else w.actor n := by
  rw [actor, actor, change, Array.getElem?_modify]
  split
  · cases w.actors[n]? with
    | none => cases x <;> rfl
    | some y => rfl
  · rfl

theorem bare_change (w : World) (m n : Nat) (x : HostChange) :
    ((w.change m x).actor n).bare = (w.actor n).bare := by
  rw [actor_change]
  split
  · exact Actor.bare_changed x _
  · rfl

end World

end Simulation

namespace Session

variable {settings : SessionSettings} {offered : List Adaptor} {c : Command} {reply : Reply}
  {s t : Session} {i j : Installed} {v w u : World} {new : History} {a : Adaptor}

/-- What is remembered of a life. -/
structure Past where
  /-- All adaptors that were handed over. -/
  supplied : List Adaptor
  /-- The world just before the adaptors in place were installed. -/
  origin : World
  /-- Whether a command put the keyboard in use there, which has been in use since. -/
  chosen : Bool

/-- What is remembered after a command, by the reply to it. -/
def Past.next (p : Past) (s : Session) (w : World) (c : Command) (reply : Reply) (t : Session) :
    Past where
  supplied := p.supplied ++ c.offers
  origin := if c.replaced reply then w else p.origin
  chosen := reply.isActivated || (p.chosen && s.inUse? = t.inUse?)

theorem Past.origin_next {p : Past} (h : c.replaced reply = false) :
    (p.next s w c reply t).origin = p.origin := by
  simp [Past.next, h]

/-- The lives of sessions: after the opening commands are carried out, and hosts change. -/
inductive Lives (settings : SessionSettings) : Past → Session → World → Prop where
  | opened {offered : List Adaptor} {v w : World} {s : Session}
      (run : (start World.environment settings offered).run v = (.ok s, w)) :
      Lives settings ⟨offered, v, false⟩ s w
  | performed {p : Past} {c : Command} {reply : Reply} {s t : Session} {v w : World}
      (before : Lives settings p s w)
      (run : (s.perform World.environment c).run w = ((reply, t), v)) :
      Lives settings (p.next s w c reply t) t v
  | changed {p : Past} {s : Session} {w : World} (before : Lives settings p s w) (n : Nat)
      (x : HostChange) : Lives settings p s (w.change n x)

variable {p : Past}

theorem opening_of_run {result : Except SessionError Session}
    (run : (start World.environment settings offered).run w = (result, v)) :
    ∃ new, w.Truthful new ∧ v = w.replay new ∧ Opening settings offered result new :=
  (World.follows_start w settings offered).leads (leads_start settings offered) run

/-- A command to an open session does in a world what it does by its history. -/
theorem performed_of_run (live : s.installed = some i)
    (run : (s.perform World.environment c).run w = ((reply, t), v)) :
    ∃ new, w.Truthful new ∧ v = w.replay new ∧ Performed s c reply new t :=
  (World.follows_perform w s c).leads (leads_perform live c) run

theorem disposed_of_run (gone : s.installed = none)
    (run : (s.perform World.environment c).run w = ((reply, t), v)) :
    t = s ∧ v = w ∧ reply.isActivated = false := by
  obtain ⟨reply', he, hr⟩ := perform_disposed (o := w.oracle) gone c
  have hq : Leads (s.perform w.oracle.environment c) fun r new =>
      r.2 = s ∧ new = [] ∧ r.1.isActivated = false := by
    rw [he]
    exact .pure ⟨rfl, rfl, hr⟩
  obtain ⟨new, -, rfl, rfl, rfl, hr⟩ := (World.follows_perform w s c).leads hq run
  exact ⟨rfl, rfl, hr⟩

/-- An adaptor lists what it read when it was started in an earlier world. -/
structure Stocked (v w : World) (a : Adaptor) : Prop where
  started : ((v.actor a.handle).answer .start).1 = .ok ()
  bare : (w.actor a.handle).bare = (v.actor a.handle).started.bare

/-- That is what a new adaptor would have listed there. -/
theorem Stocked.offers_eq (h : Stocked v w a) : w.offers a = v.promises a :=
  Actor.listed_congr (h.bare.trans (Actor.bare_started_renewed h.started).2.symm)

theorem Stocked.of_bare (h : Stocked v w a)
    (hb : (u.actor a.handle).bare = (w.actor a.handle).bare) : Stocked v u a :=
  ⟨h.started, hb.trans h.bare⟩

theorem keyboards_of_enumerations {offers : List Offer}
    (truthful : w.Truthful (enumerations offers)) :
    offers.flatMap Offer.keyboards = (offers.map Prod.fst).flatMap w.offers := by
  induction offers generalizing w with
  | nil => rfl
  | cons x offers ih =>
    obtain ⟨hx, hrest⟩ := truthful
    have hsame : (w.meet (.asked x.1 .enumerate x.2)).offers = w.offers := by
      funext a
      have hactor : (w.replay (enumerations [x])).actor a.handle = w.actor a.handle :=
        World.actor_replay_harmless (asks_enumerations fun _ _ _ => rfl)
      exact congrArg Actor.listed hactor
    have hkeyboards : x.keyboards = w.offers x.1 := by
      change (w.ask x.1 .enumerate).1 = x.2 at hx
      rw [World.ask_fst] at hx
      rw [World.offers, Actor.listed, hx]
      rfl
    rw [List.flatMap_cons, List.map_cons, List.flatMap_cons, ih hrest, hsame, hkeyboards]

/-- An adaptor that is left alone before it is started, and only works from then on. -/
theorem stocked_of_history {g h : History}
    (before : Asks (fun b r => b.handle = a.handle → r.isHarmless = true) g)
    (after : Asks (fun b r => b.handle = a.handle → r.isWork = true) h)
    (truthful : w.Truthful (g ++ ([.asked a .start (.ok ())] ++ h))) :
    Stocked w (w.replay (g ++ ([.asked a .start (.ok ())] ++ h))) a := by
  obtain ⟨-, hanswer, -⟩ := World.truthful_append.1 truthful
  change ((w.replay g).ask a .start).1 = .ok () at hanswer
  rw [World.ask_fst, World.actor_replay_harmless before] at hanswer
  refine ⟨hanswer, ?_⟩
  rw [World.replay_append, World.replay_append, World.bare_replay after]
  change (((w.replay g).ask a .start).2.actor a.handle).bare = _
  rw [World.actor_ask_self, World.actor_replay_harmless before]
  rfl

/-- Of adaptors with different handles, those passed over are others than those chosen, and these
are two if there are two. -/
theorem handles_of_verdicts {verdicts : List Verdict}
    (owned : ((verdicts.map Prod.fst).map (·.handle)).Nodup) :
    let chosen := Selection.ofVerdicts verdicts
    (∀ c, ∀ a ∈ chosen.place c, ∀ b ∈ chosen.unused, b.handle ≠ a.handle) ∧
    ∀ a ∈ chosen.primary, ∀ b ∈ chosen.secondary, a.handle ≠ b.handle := by
  intro chosen
  have hall := ((Selection.all_ofVerdicts verdicts).map (·.handle)).nodup_iff.2 owned
  rw [Selection.all, List.map_append, List.map_append, List.nodup_append, List.nodup_append] at hall
  obtain ⟨-, ⟨-, -, htwo⟩, hunused⟩ := hall
  constructor
  · intro c a ha b hb
    refine hunused _ (List.mem_map_of_mem hb) _ ?_
    rw [← List.map_append]
    refine List.mem_map_of_mem (List.mem_append.2 ?_)
    cases c with
    | primary => exact .inl (Option.mem_toList.2 ha)
    | secondary => exact .inr (Option.mem_toList.2 ha)
  · intro a ha b hb
    exact htwo _ (List.mem_map_of_mem (Option.mem_toList.2 ha)) _
      (List.mem_map_of_mem (Option.mem_toList.2 hb))

section Installing

variable (owned : (offered.map (·.handle)).Nodup) (h : Installing offered (.ok i) new)
  (truthful : w.Truthful new)
include owned h truthful

/-- Of an offer of adaptors with different handles those get in place that could be started. -/
theorem stocked_of_installing : ∀ a ∈ i.adaptors, Stocked w (w.replay new) a := by
  cases h with
  | installed judged one two listed =>
    rename_i verdicts primary secondary first second offers
    rw [← judged] at owned
    obtain ⟨hunused, hplaces⟩ := handles_of_verdicts owned
    obtain ⟨hone, rfl⟩ := one.eq_some
    have hquiet : ∀ n, (∀ b ∈ (Selection.ofVerdicts verdicts).unused, b.handle ≠ n) →
        Asks (fun b r => b.handle = n → r.isHarmless = true)
          (questions verdicts ++ closings (Selection.ofVerdicts verdicts).unused) := by
      intro n hn
      exact asks_append.2 ⟨asks_questions fun _ _ _ => rfl,
        asks_closings fun b hb he => (hn b hb he).elim⟩
    have hlisting : ∀ n, Asks (fun b r => b.handle = n → r.isWork = true) (enumerations offers) :=
      fun n => asks_enumerations fun _ _ _ => rfl
    intro a ha
    rcases List.mem_cons.1 ha with rfl | ha
    · have hsecond : Asks (fun b r => b.handle = a.handle → r.isWork = true) second :=
        two.asks.mono fun b r hb he => (hplaces a hone b hb.1 he.symm).elim
      rw [← List.append_assoc] at truthful ⊢
      exact stocked_of_history (hquiet _ (hunused .primary a hone))
        (asks_append.2 ⟨hsecond, hlisting _⟩) truthful
    · rw [Option.mem_toList] at ha
      dsimp only at ha
      subst ha
      obtain ⟨htwo, rfl⟩ := two.eq_some
      have hfirst : Asks (fun b r => b.handle = a.handle → r.isHarmless = true)
          [.asked primary .start (.ok ())] :=
        asks_singleton fun he => (hplaces primary hone a htwo he).elim
      rw [← List.append_assoc, ← List.append_assoc] at truthful ⊢
      exact stocked_of_history (asks_append.2 ⟨hquiet _ (hunused .secondary a htwo), hfirst⟩)
        (hlisting _) truthful

/-- The catalog is filled with what new adaptors would have listed. -/
theorem catalog_of_installing : i.catalog = Catalog.ofList (i.adaptors.flatMap w.promises) := by
  have hstocked := stocked_of_installing owned h truthful
  cases h with
  | installed judged one two listed =>
    rename_i verdicts primary secondary first second offers
    simp only [← List.append_assoc] at truthful hstocked
    have hkeyboards := keyboards_of_enumerations (World.truthful_append.1 truthful).2
    rw [hkeyboards, listed]
    refine congrArg Catalog.ofList (List.flatMap_congr fun a ha => ?_)
    rw [← (hstocked a ha).offers_eq, World.replay_append w _ (enumerations offers)]
    exact congrArg Actor.listed
      (World.actor_replay_harmless (asks_enumerations fun _ _ _ => rfl)).symm

end Installing

/-- What holds of the adaptors in place all through a life. -/
structure Settled (p : Past) (w : World) (i : Installed) : Prop where
  supplied : ∀ a ∈ i.adaptors, a ∈ p.supplied
  sound : i.Sound
  stocked : ∀ a ∈ i.adaptors, Stocked p.origin w a
  catalog : i.catalog = Catalog.ofList (i.adaptors.flatMap p.origin.promises)

theorem settled_of_installing (owned : (offered.map (·.handle)).Nodup)
    (h : Installing offered (.ok i) new) (truthful : p.origin.Truthful new)
    (supplied : ∀ a ∈ offered, a ∈ p.supplied) : Settled p (p.origin.replay new) i :=
  ⟨fun _ ha => supplied _ (h.mem_of_mem_adaptors ha), sound_of_installing h,
    stocked_of_installing owned h truthful, catalog_of_installing owned h truthful⟩

/-- Events that leave the lists of the installed adaptors alone. -/
theorem Settled.of_bare (h : Settled p w i)
    (hb : ∀ a ∈ i.adaptors, (v.actor a.handle).bare = (w.actor a.handle).bare) : Settled p v i :=
  ⟨h.supplied, h.sound, fun a ha => (h.stocked a ha).of_bare (hb a ha), h.catalog⟩

theorem Past.owned_of_next (h : ((p.next s w c reply t).supplied.map (·.handle)).Nodup) :
    (p.supplied.map (·.handle)).Nodup ∧ (c.offers.map (·.handle)).Nodup ∧
    ∀ a ∈ p.supplied, ∀ b ∈ c.offers, a.handle ≠ b.handle := by
  change ((p.supplied ++ c.offers).map (·.handle)).Nodup at h
  rw [List.map_append, List.nodup_append] at h
  exact ⟨h.1, h.2.1, fun a ha b hb =>
    h.2.2 _ (List.mem_map_of_mem ha) _ (List.mem_map_of_mem hb)⟩

/-- A catalog that was filled with the same keyboards again changes nothing. -/
theorem refreshed_same (live : s.installed = some i) (hs : i.Sound) :
    s.refreshed i i.catalog = s := by
  have hactive : (i.catalog.get? i.active.layout i.active.locale).getD .zero = i.active := by
    rcases hs.active with hzero | hown
    · rw [hzero, Catalog.get?_zero hs.indexed]
      rfl
    · rw [hown]
      rfl
  rw [refreshed, hactive, withInstalled, ← live]

/-- To ask the adaptors in place anew for their keyboards gives the catalog that is there. -/
theorem Settled.catalog_refreshed (h : Settled p w i) {offers : List Offer}
    (listed : offers.map Prod.fst = i.adaptors) (truthful : w.Truthful (enumerations offers)) :
    Catalog.ofList (offers.flatMap Offer.keyboards) = i.catalog := by
  rw [keyboards_of_enumerations truthful, listed, h.catalog]
  exact congrArg Catalog.ofList (List.flatMap_congr fun a ha => (h.stocked a ha).offers_eq)

theorem Settled.next (h : Settled p v i) (kept : c.replaced reply = false) :
    Settled (p.next s w c reply t) v i := by
  refine ⟨fun a ha => List.mem_append_left _ (h.supplied a ha), h.sound, ?_, ?_⟩ <;>
    rw [Past.origin_next kept]
  · exact h.stocked
  · exact h.catalog

/-- A command keeps the adaptors in place settled, or settles others. -/
theorem Settled.performed (h : Settled p w i) (live : s.installed = some i)
    (owned : ((p.next s w c reply t).supplied.map (·.handle)).Nodup)
    (hp : Performed s c reply new t) (truthful : w.Truthful new) (after : t.installed = some j) :
    Settled (p.next s w c reply t) (w.replay new) j := by
  obtain ⟨-, nodup, apart⟩ := Past.owned_of_next owned
  cases hp with
  | steps plain path =>
    obtain ⟨k, hk, within⟩ := path.frame live
    cases after.symm.trans hk
    refine .next (.of_bare ⟨h.supplied, within.sound h.sound, h.stocked, h.catalog⟩ fun a ha => ?_)
      (Command.replaced_of_isPlain plain)
    exact World.bare_replay ((path.asks live).mono fun _ _ hw _ => hw.2)
  | refusal live' installing =>
    cases live.symm.trans after
    refine .next (h.of_bare fun a ha => ?_) rfl
    exact congrArg Actor.bare (World.actor_replay_other (installing.asks.mono fun b _ hb he =>
      apart a (h.supplied a ha) b hb.1 he.symm))
  | @replacement _ _ offered _ live' installing =>
    cases live.symm.trans live'
    cases after
    have hnew := settled_of_installing
      (p := p.next s w (.replaceAdaptors offered) .done (s.withInstalled j)) nodup installing
      (World.truthful_append.1 truthful).1 fun _ ha => List.mem_append_right _ ha
    rw [World.replay_append]
    refine hnew.of_bare fun a ha => World.bare_replay (asks_append.2 ⟨?_, asks_append.2 ⟨?_, ?_⟩⟩)
    · exact asks_announcements fun _ _ _ _ => rfl
    · exact asks_closings fun b hb he =>
        (apart b (h.supplied b hb) a (installing.mem_of_mem_adaptors ha) he).elim
    · exact asks_introduction _
  | refresh live' listed =>
    cases live.symm.trans live'
    have hcatalog := h.catalog_refreshed listed truthful
    rw [hcatalog] at after
    have hsound := sound_refreshed (s := s) h.sound _ (hcatalog ▸ after)
    cases after
    refine .next (.of_bare ⟨h.supplied, hsound, h.stocked, h.catalog⟩ fun a ha => ?_) rfl
    exact World.bare_replay (asks_enumerations fun _ _ _ => rfl)
  | shutDown => cases after

/-- All through a life in which no adaptor is handed over twice the adaptors in place are settled. -/
theorem Lives.settled (life : Lives settings p s w) (owned : (p.supplied.map (·.handle)).Nodup)
    (live : s.installed = some i) : Settled p w i := by
  induction life generalizing i with
  | @opened offered v _ _ run =>
    obtain ⟨new, truthful, rfl, opening⟩ := opening_of_run run
    cases opening with
    | opened installing =>
      cases live
      have hnew := settled_of_installing (p := ⟨offered, v, false⟩) owned installing
        (World.truthful_append.1 truthful).1 fun _ ha => ha
      rw [World.replay_append]
      exact hnew.of_bare fun a ha => World.bare_replay (asks_introduction _)
  | @performed p c reply s t v w before run ih =>
    have hbefore := (Past.owned_of_next owned).1
    cases hs : s.installed with
    | none =>
      obtain ⟨rfl, rfl, -⟩ := disposed_of_run hs run
      cases hs.symm.trans live
    | some k =>
      obtain ⟨new, truthful, rfl, hp⟩ := performed_of_run hs run
      exact (ih hbefore hs).performed hs owned hp truthful live
  | changed before n x ih => exact (ih owned live).of_bare fun a ha => World.bare_change _ _ _ _

/-! A small world, which later modules put actors into. -/

namespace Sample

/-- A host that lists one layout. -/
def layoutHost : XkbHost where
  rules := "! layout\n  us  English\n"
  layout := some "us"

/-- The adaptor that comes first in the world. -/
def layoutSystem : Adaptor := ⟨0, "xkb", .primary⟩

end Sample

end Session

end Keyboards
