import Keyboards.Proofs.Session.Runs
import Keyboards.Proofs.Session.Selection

/-! What holds of the installed adaptors, their catalog and the keyboard in use after every run. -/

namespace Keyboards

/-- Every adaptor stands in the place of its category, and the keyboard in use is zero or the
catalog's own entry under its key. -/
structure Installed.Sound (i : Installed) : Prop where
  primary : i.primary.category = .primary
  secondary : ∀ a, i.secondary = some a → a.category = .secondary
  indexed : i.catalog.Indexed
  active : i.active = .zero ∨ i.catalog.get? i.active.layout i.active.locale = some i.active

namespace Installed

variable {i : Installed} {a : Adaptor} {c : Category}

theorem serving_mem (h : i.serving c = some a) : a ∈ i.adaptors := by
  cases c with
  | primary =>
    cases h
    exact List.mem_cons_self
  | secondary => exact List.mem_cons_of_mem _ (Option.mem_toList.2 h)

theorem Sound.category_of_serving (hs : i.Sound) (h : i.serving c = some a) :
    a.category = c := by
  cases c with
  | primary =>
    cases h
    exact hs.primary
  | secondary => exact hs.secondary a h

/-- An installed adaptor serves its own category. -/
theorem Sound.serving_of_mem (hs : i.Sound) (h : a ∈ i.adaptors) :
    i.serving a.category = some a := by
  rcases List.mem_cons.1 h with rfl | h
  · rw [hs.primary]
    rfl
  · rw [hs.secondary a (Option.mem_toList.1 h)]
    exact Option.mem_toList.1 h

end Installed

namespace Session

open History

variable {o : Oracle} {settings : SessionSettings} {offered : List Adaptor} {cs : List Command}
  {s t : Session} {i j : Installed} {g h new : History} {k r : Keyboard} {c : Category}

theorem usable?_eq_some : usable? i k = some (r, c) ↔
    i.catalog.get? k.layout k.locale = some r ∧ r.available = true ∧ r.category = some c := by
  simp only [usable?, Option.bind_eq_some_iff, Option.filter_eq_some_iff, Option.map_eq_some_iff,
    Prod.mk.injEq]
  constructor
  · rintro ⟨_, ⟨hk, ha⟩, _, hc, rfl, rfl⟩
    exact ⟨hk, ha, hc⟩
  · rintro ⟨hk, ha, hc⟩
    exact ⟨r, ⟨hk, ha⟩, c, hc, rfl, rfl⟩

theorem Starting.eq_some {x : Option Adaptor} {a : Adaptor} (h : Starting x (some a) new) :
    x = some a ∧ new = [.asked a .start (.ok ())] := by
  cases h
  exact ⟨rfl, rfl⟩

theorem sound_of_installing (h : Installing offered (.ok i) new) : i.Sound := by
  cases h with
  | installed judged one two listed =>
    rename_i verdicts primary secondary first second offers
    rw [Selection.primary_ofVerdicts] at one
    rw [Selection.secondary_ofVerdicts] at two
    refine ⟨(Selection.lastApplicable_mem one.eq_some.1).2, ?_, Catalog.indexed_ofList _,
      .inl rfl⟩
    intro a ha
    subst ha
    exact (Selection.lastApplicable_mem two.eq_some.1).2

/-- A keyboard that an installation may have in use next: its present one, none, or one that its
catalog holds. -/
def Within (i : Installed) (k : Keyboard) : Prop :=
  k = i.active ∨ k = .zero ∨ ∃ layout locale, i.catalog.get? layout locale = some k

/-- Steps change nothing that is installed but the keyboard in use. -/
theorem Step.frame (h : Step s new t) (live : s.installed = some i) :
    ∃ k, t.installed = some { i with active := k } ∧ Within i k := by
  cases h with
  | question | warning | failure | register | unregister | listen =>
    exact ⟨i.active, live, .inl rfl⟩
  | adoption live' idle found =>
    cases live.symm.trans live'
    exact ⟨_, rfl, .inr (.inr ⟨_, _, found⟩)⟩
  | switch live' usable serves =>
    cases live.symm.trans live'
    exact ⟨_, rfl, .inr (.inr ⟨_, _, (usable?_eq_some.1 usable).1⟩)⟩
  | release live' =>
    cases live.symm.trans live'
    exact ⟨_, rfl, .inr (.inl rfl)⟩

theorem Steps.frame (h : Steps s new t) (live : s.installed = some i) :
    ∃ k, t.installed = some { i with active := k } ∧ Within i k := by
  induction h with
  | refl => exact ⟨i.active, live, .inl rfl⟩
  | tail before last ih =>
    obtain ⟨k, hk, within⟩ := ih
    obtain ⟨l, hl, hw⟩ := last.frame hk
    refine ⟨l, hl, ?_⟩
    rcases hw with rfl | rfl | hw
    · exact within
    · exact .inr (.inl rfl)
    · exact .inr (.inr hw)

theorem Within.sound (hw : Within i k) (hs : i.Sound) : ({ i with active := k }).Sound := by
  refine ⟨hs.primary, hs.secondary, hs.indexed, ?_⟩
  rcases hw with rfl | rfl | ⟨layout, locale, hk⟩
  · exact hs.active
  · exact .inl rfl
  · exact .inr (Catalog.get?_own hs.indexed hk)

theorem Steps.sound (h : Steps s new t) (live : s.installed = some i) (hs : i.Sound)
    (after : t.installed = some j) : j.Sound := by
  obtain ⟨k, hk, within⟩ := h.frame live
  cases after.symm.trans hk
  exact within.sound hs

theorem sound_refreshed (hs : i.Sound) (ks : List Keyboard)
    (after : (s.refreshed i (Catalog.ofList ks)).installed = some j) : j.Sound := by
  cases after
  refine ⟨hs.primary, hs.secondary, Catalog.indexed_ofList ks, ?_⟩
  cases hk : (Catalog.ofList ks).get? i.active.layout i.active.locale with
  | none => exact .inl rfl
  | some k => exact .inr (Catalog.get?_own (Catalog.indexed_ofList ks) hk)

theorem Performed.sound {c : Command} {reply : Reply} (h : Performed s c reply new t)
    (live : s.installed = some i) (hs : i.Sound) (after : t.installed = some j) : j.Sound := by
  cases h with
  | steps plain path => exact path.sound live hs after
  | refusal live' installing =>
    cases live.symm.trans after
    exact hs
  | replacement live' installing =>
    cases after
    exact sound_of_installing installing
  | refresh live' listed =>
    cases live.symm.trans live'
    exact sound_refreshed hs _ after
  | shutDown => cases after

/-- Whatever the commands and the answers were, what is installed is sound. -/
theorem reached_sound (reached : Reached o settings offered cs s h)
    (live : s.installed = some i) : i.Sound := by
  refine Reached.induct (P := fun _ s _ => ∀ i, s.installed = some i → i.Sound) ?_ ?_ ?_
    reached i live
  · rintro i new _ installing _ ⟨⟩
    exact sound_of_installing installing
  · intro cs s h i c reply new t _ ih live _ hperf j after
    exact hperf.sound live (ih i live) after
  · intro cs s h c reply _ ih _ _
    exact ih

/-! A small host: two adaptors, with a system layout whose offer changes once it was in use. -/

namespace Sample

def system : Adaptor := ⟨0, "system", .primary⟩

def methods : Adaptor := ⟨1, "methods", .secondary⟩

def us : Keyboard := ⟨"us", "en-US", "US", some .primary, true, some "system", none⟩

def pinyin : Keyboard := ⟨"pinyin", "zh-CN", "Pinyin", some .secondary, true, some "methods", none⟩

/-- The layouts of a system that offers others once its own was in use. -/
def layouts (later : List Keyboard) (h : History) : List Keyboard :=
  if (calls system h).any (·.1 = .activate us) then later else [us]

def host (later : List Keyboard) : Oracle := .willing fun h a =>
  match a.category with
  | .primary => layouts later h
  | .secondary => [pinyin]

/-- Both adaptors with what they offered, and the keyboard in use. -/
def both (ks : List Keyboard) (k : Keyboard) : Installed :=
  ⟨system, some methods, .ofList (ks ++ [pinyin]), k⟩

variable (later : List Keyboard)

theorem layouts_activated (h : History) :
    layouts later (h ++ [.asked system (.activate us) (.ok ())]) = later := by
  simp [layouts]

theorem reached_opening : ∃ h,
    Reached (host later) {} [system, methods] [] (fresh {} (both [us] .zero)) h := by
  rw [both, Catalog.ofList, Catalog.insertAll_append]
  exact ⟨_, reached_nil.2 rfl⟩

theorem usable?_us : usable? (both [us] .zero) us = some (us, .primary) := by
  refine usable?_eq_some.2 ⟨Catalog.get?_of_mem (Catalog.indexed_ofList _) ?_, rfl, rfl⟩
  rw [both, Catalog.toList_ofList]
  decide +kernel

theorem reached_us : ∃ h, Reached (host later) {} [system, methods] [.activate us]
    (fresh {} (both [us] us)) (h ++ [.asked system (.activate us) (.ok ())]) := by
  obtain ⟨h, opened⟩ := reached_opening later
  have hr := run_activate (o := host later) (s := fresh {} (both [us] .zero)) (h := h) rfl
    usable?_us rfl rfl rfl
  have hstays : leaving? (both [us] .zero) .primary = none := rfl
  rw [hstays, letting, Option.toList_none, List.map_nil, List.append_nil] at hr
  exact ⟨h, reached_snoc.2 ⟨_, _, _, opened, hr⟩⟩

theorem run_refresh (s : Session) (ks : List Keyboard) (k : Keyboard) (h : History) :
    ((s.withInstalled (both ks k)).perform (host later).environment .refresh).run h =
      ((.done, s.refreshed (both ks k) (.ofList (layouts later h ++ [pinyin]))),
        h ++ [.asked system .enumerate (.ok (layouts later h))] ++
          [.asked methods .enumerate (.ok [pinyin])]) := by
  rw [Catalog.ofList, Catalog.insertAll_append]
  rfl

/-- The system layout was put into use, and then the adaptors were asked anew. -/
theorem reached_refreshed : ∃ h,
    Reached (host later) {} [system, methods] [.activate us, .refresh]
      ((fresh {} (both [us] us)).refreshed (both [us] us) (.ofList (later ++ [pinyin])))
      (h ++ [.asked system (.activate us) (.ok ())] ++ [.asked system .enumerate (.ok later)] ++
        [.asked methods .enumerate (.ok [pinyin])]) := by
  obtain ⟨h, reached⟩ := reached_us later
  have hr := run_refresh later (fresh {} (both [us] us)) [us] us
    (h ++ [.asked system (.activate us) (.ok ())])
  rw [layouts_activated] at hr
  exact ⟨h, reached_snoc.2 ⟨_, _, _, reached, hr⟩⟩

end Sample

end Session

end Keyboards
