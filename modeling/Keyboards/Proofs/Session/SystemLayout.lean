import Keyboards.Proofs.Session.Consistency
import Keyboards.Proofs.World.SystemDefault
import Keyboards.Proofs.Xkb.Calls

/-! The layout that a host reports, and the keyboard that the catalog has for it. The primary
adaptor is the one for system layouts, over any host, and the other adaptor is any. -/

namespace Keyboards

open History Text Xkb

namespace Xkb.State

variable {t : State} {l : Layout} {name : String}

/-- A layout of the list goes by a name, be it in another spelling, and is used for the same locale
under that spelling. -/
structure Spells (t : State) (l : Layout) (name : String) : Prop where
  listed : l ∈ t.layouts
  spelling : nfc l.name = nfc name
  locale : localeOf? t.settings.localeOverrides l.name =
    localeOf? t.settings.localeOverrides name

theorem key_keyboardNamed (t : State) (name description : String) :
    (t.keyboardNamed name description).key =
      (nfc name, nfc ((localeOf? t.settings.localeOverrides name).getD "")) := rfl

/-- A layout goes by the name that the list has for it, in whatever normal form that is. -/
theorem spells_name (hl : l ∈ t.layouts) : t.Spells l l.name := ⟨hl, rfl, rfl⟩

/-- The keyboard for a name that the host reports has the key of the one that is on offer. -/
theorem Spells.key_keyboardFor (h : t.Spells l name) :
    (t.keyboardFor name).key = (t.keyboardOf l).key := by
  rw [t.key_keyboardFor name l.description, keyboardOf, key_keyboardNamed, key_keyboardNamed,
    h.spelling, h.locale]

end Xkb.State

namespace Session

variable {σ : Type} {host : Xkb.Host (StateM σ)} {xkb : XkbSettings} {t : Xkb.State} {w : σ}
  {l : Layout} {name : String} {o : Oracle} {settings : SessionSettings} {offered : List Adaptor}
  {cs : List Command} {s : Session} {i : Installed} {g h : History} {offers : List Offer}

theorem mem_enumerated {x : Offer} : x ∈ enumerated h ↔ .asked x.1 .enumerate x.2 ∈ h := by
  rw [enumerated, List.mem_filterMap]
  constructor
  · rintro ⟨e, he, hx⟩
    split at hx
    next =>
      cases hx
      exact he
    next => cases hx
  · exact fun hx => ⟨_, hx, rfl⟩

/-- The catalog was filled with answers that were given. -/
theorem LastFilled.subset (last : LastFilled o settings offered cs offers)
    (reached : Reached o settings offered cs s g) : offers ⊆ enumerated g := by
  induction last generalizing s g with
  | opening opened =>
    obtain ⟨rfl, rfl⟩ := opened.unique reached
    exact List.Subset.refl _
  | filling before fills carried =>
    obtain ⟨rfl, rfl⟩ := (reached_snoc.2 ⟨_, _, _, before, carried⟩).unique reached
    rw [enumerated_append]
    exact List.subset_append_right ..
  | kept before carried other last ih =>
    obtain ⟨rfl, rfl⟩ := (reached_snoc.2 ⟨_, _, _, before, carried⟩).unique reached
    rw [enumerated_append]
    exact List.Subset.trans (ih before) (List.subset_append_left ..)

/-- A keyboard of the primary adaptor in the catalog, with a name and a locale. -/
structure Registered (i : Installed) (name locale : String) (r : Keyboard) : Prop where
  mem : r ∈ i.catalog.toList
  layout : r.layout = nfc name
  locale : r.locale = locale
  category : r.category = some .primary
  available : r.available = true

/-- Under the key of a layout in its list the catalog has a keyboard of the primary adaptor. -/
theorem exists_registered (reached : Reached o settings offered cs s g)
    (owned : (supplied offered cs).Nodup) (live : s.installed = some i)
    (past : Asked host { settings := xkb } (calls i.primary g) t) (hl : l ∈ t.layouts) :
    ∃ r, i.catalog.get? (t.keyboardOf l).layout (t.keyboardOf l).locale = some r ∧
      Registered i l.name (t.keyboardOf l).locale r := by
  obtain ⟨offers, last⟩ := exists_lastFilled reached
  obtain ⟨hadaptors, hcatalog⟩ := reached_fits reached live last
  obtain ⟨⟨a, answer⟩, rest, rfl⟩ : ∃ x rest, offers = x :: rest := by
    cases offers with
    | nil => cases hadaptors
    | cons x rest => exact ⟨x, rest, rfl⟩
  obtain rfl : a = i.primary := (List.cons.inj hadaptors).1
  -- the primary adaptor was asked for its keyboards after it had started
  have hasked : ⟨.enumerate, answer⟩ ∈ calls i.primary g :=
    mem_calls.2 (mem_enumerated.1 (last.subset reached (.head _)))
  have serving := ((reached_orderly reached owned).serving i live i.primary (primary_mem i)).2
  obtain ⟨w, w', started, answered⟩ := past.serving serving
  obtain ⟨v, v', hanswer⟩ := answered .enumerate answer hasked rfl
  obtain rfl : .ok (t.layouts.map t.keyboardOf) = answer := congrArg (·.1.1) hanswer
  have words : l.WellFormed := by
    obtain ⟨⟨e, he⟩, -⟩ | ⟨-, content, layouts, -, hread, rfl, -⟩ := start_cases started
    · cases he
    · exact Rules.wellFormed_of_read hread hl
  obtain ⟨l', hl', hkey, hget⟩ := t.get?_ofList_layouts hl words (rest.flatMap Offer.keyboards)
  have hfound : i.catalog.get? (t.keyboardOf l).layout (t.keyboardOf l).locale =
      some (t.keyboardOf l') := by
    rw [hcatalog, List.flatMap_cons]
    exact hget
  exact ⟨t.keyboardOf l', hfound,
    (Catalog.get?_eq_some (reached_sound reached live).indexed hfound).1,
    congrArg Prod.fst hkey, congrArg Prod.snd hkey, rfl, rfl⟩

/-- What the adaptor says of a name that its list spells is in the catalog. -/
theorem exists_registered_for (reached : Reached o settings offered cs s g)
    (owned : (supplied offered cs).Nodup) (live : s.installed = some i)
    (past : Asked host { settings := xkb } (calls i.primary g) t) (spells : t.Spells l name) :
    ∃ r, i.catalog.get? (t.keyboardFor name).layout (t.keyboardFor name).locale = some r ∧
      Registered i name (t.keyboardOf l).locale r := by
  obtain ⟨r, hget, registered⟩ := exists_registered reached owned live past spells.listed
  have hkey := spells.key_keyboardFor
  have hlayout : (t.keyboardFor name).layout = (t.keyboardOf l).layout := congrArg Prod.fst hkey
  have hlocale : (t.keyboardFor name).locale = (t.keyboardOf l).locale := congrArg Prod.snd hkey
  exact ⟨r, by rw [hlayout, hlocale, hget],
    { registered with layout := registered.layout.trans spells.spelling }⟩

theorem run_defaultKeyboard {k r : Keyboard} (live : s.installed = some i)
    (answered : o g i.primary .defaultKeyboard = some k)
    (found : i.catalog.get? k.layout k.locale = some r) :
    (s.perform o.environment .defaultKeyboard).run g =
      ((.keyboard r, s), g ++ [.asked i.primary .defaultKeyboard (some k)]) := by
  have hask : (o.environment.ask i.primary .defaultKeyboard).run g =
      (some k, g ++ [.asked i.primary .defaultKeyboard (some k)]) := by
    rw [← answered]
    rfl
  have hdefault : (s.defaultKeyboard o.environment).run g =
      (.ok r, g ++ [.asked i.primary .defaultKeyboard (some k)]) := by
    rw [defaultKeyboard, live]
    dsimp only
    rw [defaultOf, map_eq_pure_bind, bind_assoc, run_bind_of hask]
    dsimp only
    rw [found]
    rfl
  rw [perform, run_bind_of hdefault]
  rfl

theorem run_activeKeyboard {layout locale : String} {r : Keyboard} (live : s.installed = some i)
    (idle : i.active.isZero = true) (asks : s.settings.queryHostActive = true)
    (answered : o g i.primary .activeKeyboard = some (layout, locale))
    (found : i.catalog.get? layout locale = some r) :
    (s.perform o.environment .activeKeyboard).run g =
      ((.keyboard r, s.withActive i r),
        g ++ [.asked i.primary .activeKeyboard (some (layout, locale))]) := by
  have hask : (o.environment.ask i.primary .activeKeyboard).run g =
      (some (layout, locale), g ++ [.asked i.primary .activeKeyboard (some (layout, locale))]) := by
    rw [← answered]
    rfl
  have hactive : (s.activeKeyboard o.environment).run g = ((.ok r, s.withActive i r),
      g ++ [.asked i.primary .activeKeyboard (some (layout, locale))]) := by
    rw [activeKeyboard, live]
    dsimp only
    rw [idle, asks, Bool.and_self, if_pos rfl, run_bind_of hask, Option.bind_some]
    dsimp only
    rw [found]
    rfl
  rw [perform, run_bind_of hactive]
  rfl

/-- The layout that was in effect at the start, and the one that is in effect as long as no keyboard
is in use, are told as keyboards of the catalog if the rules list has them, whatever other adaptor
there is. -/
theorem reported_registered (reached : Reached o settings offered cs s g)
    (owned : (supplied offered cs).Nodup) (live : s.installed = some i)
    (past : Asked host { settings := xkb } (calls i.primary g) t)
    (now : ∀ r, o g i.primary r = ((answer host t r).run w).1.1) :
    (∃ w₀ content, (host.rules.run w₀).1 = .ok content ∧ Rules.read content = .ok t.layouts ∧
      ∀ name, t.initial = some name ↔ host.Tells (host.rules.run w₀).2 name) ∧
    (∀ name l, t.initial = some name → t.Spells l name → ∃ r new,
      (s.perform o.environment .defaultKeyboard).run g = ((.keyboard r, s), g ++ new) ∧
      Registered i name (t.keyboardOf l).locale r) ∧
    (s.settings.queryHostActive = true → i.active.isZero = true → ∀ name l,
      host.Tells w name → t.Spells l name → ∃ r new,
      (s.perform o.environment .activeKeyboard).run g =
        ((.keyboard r, s.withActive i r), g ++ new) ∧
      Registered i name (t.keyboardOf l).locale r) := by
  refine ⟨?_, fun name l initial spells => ?_, fun asks idle name l tells spells => ?_⟩
  · have serving := ((reached_orderly reached owned).serving i live i.primary (primary_mem i)).2
    obtain ⟨w₀, w₁, started, -⟩ := past.serving serving
    obtain ⟨⟨e, he⟩, -⟩ | ⟨-, content, layouts, hrules, hread, ht, -⟩ := start_cases started
    · cases he
    · refine ⟨w₀, content, hrules, by rw [ht, hread], fun name => ?_⟩
      rw [ht, ← current_eq_some_iff]
  · obtain ⟨r, found, registered⟩ := exists_registered_for reached owned live past spells
    have answered : o g i.primary .defaultKeyboard = some (t.keyboardFor name) := by
      rw [now]
      exact congrArg (Option.map t.keyboardFor) initial
    exact ⟨r, _, run_defaultKeyboard live answered found, registered⟩
  · obtain ⟨r, found, registered⟩ := exists_registered_for reached owned live past spells
    have answered : o g i.primary .activeKeyboard = some (t.keyboardFor name).key := by
      rw [now]
      exact congrArg (Option.map fun name => (t.keyboardFor name).key) (current_eq_some_iff.2 tells)
    exact ⟨r, _, run_activeKeyboard live idle asks answered found, registered⟩

/-! A host that reports a name which is not in its normal form, and an engine under its key. -/

namespace Sample

open Simulation Keyboards.Sample

def reporting : XkbHost := { cedillas with layout := some cedilla.name }

/-- The adaptor once it started over that host. -/
def begun : Xkb.State := { layouts := [cedilla], initial := some cedilla.name }

def rival : Keyboard :=
  { begun.keyboardOf cedilla with name := "Rival", category := some .secondary }

def speaking : Oracle := fun h a r =>
  match a.category with
  | .primary => ((answer XkbHost.host begun r).run ⟨reporting, []⟩).1.1
  | .secondary => Oracle.willing (fun _ _ => [rival]) h a r

def cedillaInstalled : Installed :=
  ⟨system, some methods, .ofList ([begun.keyboardOf cedilla] ++ [rival]), .zero⟩

theorem reached_speaking : ∃ g, Reached speaking {} [system, methods] []
    (fresh {} cedillaInstalled) g ∧ calls system g =
      [⟨.isApplicable, true⟩, ⟨.start, .ok ()⟩, ⟨.enumerate, .ok [begun.keyboardOf cedilla]⟩] := by
  rw [cedillaInstalled, Catalog.ofList, Catalog.insertAll_append]
  exact ⟨_, reached_nil.2 rfl, rfl⟩

theorem asked_begun : Asked XkbHost.host {}
    [⟨.isApplicable, true⟩, ⟨.start, .ok ()⟩, ⟨.enumerate, .ok [begun.keyboardOf cedilla]⟩]
    begun := by
  have faithful : reporting.Faithful := ⟨rfl, rfl, rfl⟩
  have started := run_start (s := {}) (w := ⟨reporting, []⟩) faithful rfl read_cedillas
  have hcurrent : reporting.current? = some cedilla.name := by decide +kernel
  rw [hcurrent] at started
  exact .cons (w := ⟨reporting, []⟩) rfl (.cons started (.cons (w := ⟨reporting, []⟩) rfl .nil))

/-- The keyboard of the primary adaptor is told, not the engine with its key. -/
theorem reported_registered_cedilla : ∃ g r r' new new',
    Reached speaking {} [system, methods] [] (fresh {} cedillaInstalled) g ∧
    ((fresh {} cedillaInstalled).perform speaking.environment .defaultKeyboard).run g =
      ((.keyboard r, fresh {} cedillaInstalled), g ++ new) ∧
    ((fresh {} cedillaInstalled).perform speaking.environment .activeKeyboard).run g =
      ((.keyboard r', (fresh {} cedillaInstalled).withActive cedillaInstalled r'), g ++ new') ∧
    r.layout = "\u00e7x" ∧ r'.layout = "\u00e7x" ∧
    r.category = some .primary ∧ r'.category = some .primary := by
  obtain ⟨g, reached, hcalls⟩ := reached_speaking
  have past : Asked XkbHost.host { settings := {} } (calls system g) begun := hcalls ▸ asked_begun
  obtain ⟨-, default, active⟩ := reported_registered (w := ⟨reporting, []⟩) reached (by decide)
    rfl past fun _ => rfl
  have spells : begun.Spells cedilla cedilla.name := begun.spells_name (.head _)
  have tells : XkbHost.host.Tells ⟨reporting, []⟩ cedilla.name :=
    current_eq_some_iff.1 (by decide +kernel)
  obtain ⟨r, new, hdefault, hr⟩ := default _ _ rfl spells
  obtain ⟨r', new', hactive, hr'⟩ := active rfl rfl _ _ tells spells
  exact ⟨g, r, r', new, new', reached, hdefault, hactive, hr.layout.trans nfc_cedilla,
    hr'.layout.trans nfc_cedilla, hr.category, hr'.category⟩

end Sample

end Session

end Keyboards
