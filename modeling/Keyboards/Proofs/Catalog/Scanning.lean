import Keyboards.Proofs.Catalog.Contents
import Keyboards.Proofs.Text.Composition

/-! A catalog answers as a plain list does that is searched from its front. -/

namespace Keyboards

open Text (nfc)

namespace Keyboard

variable {k l : Keyboard}

/-- How keyboards come about: made from texts, or zero, and described in other words. -/
inductive Made : Keyboard → Prop where
  | zero : Made .zero
  | make (layout locale : String) (category : Category) (adaptor : String) :
      Made (.make layout locale category adaptor)
  | described {k : Keyboard} (made : Made k) (name : String) (available : Bool)
      (language : Option Language) : Made { k with name, available, language }

/-- Layout and locale are in canonical composition. -/
def Composed (k : Keyboard) : Prop := nfc k.layout = k.layout ∧ nfc k.locale = k.locale

theorem Made.composed (h : k.Made) : k.Composed := by
  induction h with
  | zero => exact ⟨rfl, rfl⟩
  | make layout locale => exact ⟨Text.nfc_nfc layout, Text.nfc_nfc locale⟩
  | described _ _ _ _ ih => exact ih

theorem Composed.canonicalKey (h : k.Composed) : k.canonicalKey = k.key := Prod.ext h.1 h.2

/-- The old identifier of a composed keyboard is composed. -/
theorem Composed.legacyId (h : k.Composed) : nfc k.legacyId = k.legacyId := by
  rw [Keyboard.legacyId, joinId]
  split_ifs
  · exact h.1
  · rw [Text.nfc_append_dash, h.1, h.2]

theorem same_iff : k.same l = true ↔ k.key = l.key := by simp [same]

end Keyboard

/-- What may be done to a catalog. -/
inductive Update where
  | add (k : Keyboard)
  | extend (ks : List Keyboard)
  | clear
  | setAvailable (layout locale : String) (flag : Bool)

namespace Update

/-- The keyboards that an update brings. -/
def keyboards : Update → List Keyboard
  | add k => [k]
  | extend ks => ks
  | clear | setAvailable .. => []

/-- What is answered to an update. -/
inductive Outcome where
  | done
  | flag (value : Bool)
  | count (value : Nat)
deriving DecidableEq

/-- Carries updates out in order. -/
def run {σ : Type} (step : Update → σ → Outcome × σ) (us : List Update) (s : σ) :
    List Outcome × σ :=
  us.foldl (fun acc u => let (r, s) := step u acc.2; (acc.1 ++ [r], s)) ([], s)

theorem run_snoc {σ : Type} (step : Update → σ → Outcome × σ) (us : List Update) (u : Update)
    (s : σ) : run step (us ++ [u]) s =
      ((run step us s).1 ++ [(step u (run step us s).2).1], (step u (run step us s).2).2) := by
  rw [run, List.foldl_append]
  rfl

end Update

namespace Listing

/-- Adds a keyboard behind the others unless it is zero or one of them is the same. -/
def add (k : Keyboard) (ks : List Keyboard) : Bool × List Keyboard :=
  if k.isZero || ks.any (·.same k) then (false, ks) else (true, ks ++ [k])

/-- Adds keyboards in order and tells how much longer the list got. -/
def addAll (new ks : List Keyboard) : Nat × List Keyboard :=
  let after := new.foldl (fun ks k => (add k ks).2) ks
  (after.length - ks.length, after)

/-- A keyboard with its flag set, if it is the one with a key. -/
def flagged (layout locale : String) (flag : Bool) (k : Keyboard) : Keyboard :=
  if k.key = (nfc layout, nfc locale) then { k with available := flag } else k

/-- Sets the flag of the keyboard with a key. Also tells whether there is one. -/
def setAvailable (layout locale : String) (flag : Bool) (ks : List Keyboard) :
    Bool × List Keyboard :=
  (ks.any (·.key = (nfc layout, nfc locale)), ks.map (flagged layout locale flag))

def get? (layout locale : String) (ks : List Keyboard) : Option Keyboard :=
  ks.find? fun k => k.key = (nfc layout, nfc locale)

def getId? (id : String) (ks : List Keyboard) : Option Keyboard :=
  match ks.find? fun k => k.legacyId = nfc id with
  | some k => some k
  | none =>
    match Text.split '|' id with
    | [layout, locale] => get? layout locale ks
    | _ => none

def step : Update → List Keyboard → Update.Outcome × List Keyboard
  | .add k, ks => (.flag (add k ks).1, (add k ks).2)
  | .extend new, ks => (.count (addAll new ks).1, (addAll new ks).2)
  | .clear, _ => (.done, [])
  | .setAvailable layout locale flag, ks =>
    (.flag (setAvailable layout locale flag ks).1, (setAvailable layout locale flag ks).2)

/-- What updates make of the empty list. -/
def after (us : List Update) : List Update.Outcome × List Keyboard := Update.run step us []

end Listing

namespace Catalog

variable {c : Catalog} {k : Keyboard} {ks : List Keyboard} {us : List Update}

def step : Update → Catalog → Update.Outcome × Catalog
  | .add k, c => (.flag (c.insert k).1, (c.insert k).2)
  | .extend ks, c => (.count (c.insertAll ks).1, (c.insertAll ks).2)
  | .clear, _ => (.done, .empty)
  | .setAvailable layout locale flag, c =>
    (.flag (c.setAvailable layout locale flag).1, (c.setAvailable layout locale flag).2)

/-- What updates make of the empty catalog. -/
def after (us : List Update) : List Update.Outcome × Catalog := Update.run step us .empty

/-- The keyboards are composed, the index by key leads to them, and the index by old identifier
leads where a scan from the front ends. -/
structure Scanned (c : Catalog) : Prop extends Indexed c where
  composed : ∀ k ∈ c.toList, k.Composed
  byLegacyId : ∀ id, c.byLegacyId[id]? = c.toList.findIdx? fun k => k.legacyId = id

theorem scanned_empty : Scanned empty := by
  refine ⟨indexed_empty, ?_, ?_⟩ <;> simp [toList, empty]

theorem Scanned.getElem?_byKey (h : Scanned c) (key : String × String) (i : Nat) :
    c.byKey[key]? = some i ↔ ∃ k, c.toList[i]? = some k ∧ k.key = key := by
  rw [h.byKey, toList]
  simp only [Array.getElem?_toList]
  constructor
  · rintro ⟨k, hi, hk⟩
    have hmem : k ∈ c.toList := Array.mem_toList_iff.2 (Array.mem_of_getElem? hi)
    exact ⟨k, hi, (h.composed k hmem).canonicalKey ▸ hk⟩
  · rintro ⟨k, hi, hk⟩
    have hmem : k ∈ c.toList := Array.mem_toList_iff.2 (Array.mem_of_getElem? hi)
    exact ⟨k, hi, (h.composed k hmem).canonicalKey.trans hk⟩

/-- The index by key leads where a scan from the front ends. -/
theorem Scanned.byKey_eq_findIdx? (h : Scanned c) (key : String × String) :
    c.byKey[key]? = c.toList.findIdx? fun k => k.key = key := by
  cases hi : c.byKey[key]? with
  | none =>
    rw [eq_comm, List.findIdx?_eq_none_iff]
    intro k hk
    rw [decide_eq_false_iff_not]
    intro hkey
    obtain ⟨i, hat⟩ := List.mem_iff_getElem?.1 hk
    rw [(h.getElem?_byKey key i).2 ⟨k, hat, hkey⟩] at hi
    cases hi
  | some i =>
    obtain ⟨k, hat, hkey⟩ := (h.getElem?_byKey key i).1 hi
    obtain ⟨hlt, rfl⟩ := List.getElem?_eq_some_iff.1 hat
    rw [eq_comm, List.findIdx?_eq_some_iff_getElem]
    refine ⟨hlt, by simpa using hkey, ?_⟩
    intro j hj hsame
    have hother : c.byKey[key]? = some j :=
      (h.getElem?_byKey key j).2 ⟨_, List.getElem?_eq_getElem (by omega), by simpa using hsame⟩
    rw [hi, Option.some.injEq] at hother
    omega

theorem Scanned.distinct (h : Scanned c) : (c.toList.map Keyboard.key).Nodup := by
  rw [List.nodup_iff_pairwise_ne, List.pairwise_iff_getElem]
  intro i j hi hj hij hsame
  rw [List.length_map] at hi hj
  rw [List.getElem_map, List.getElem_map] at hsame
  have hone := (h.getElem?_byKey _ i).2 ⟨_, List.getElem?_eq_getElem hi, rfl⟩
  have htwo := (h.getElem?_byKey _ j).2 ⟨_, List.getElem?_eq_getElem hj, hsame.symm⟩
  rw [hone, Option.some.injEq] at htwo
  omega

/-- What adding a composed keyboard does. -/
theorem Scanned.insert_cases (h : Scanned c) (hk : k.Composed) :
    (k.isZero = true ∨ ∃ l ∈ c.toList, l.same k = true) ∧ c.insert k = (false, c) ∨
    (k.isZero = false ∧ ∀ l ∈ c.toList, l.same k = false) ∧ (c.insert k).1 = true ∧
      (c.insert k).2.toList = c.toList ++ [k] ∧
      (c.insert k).2.byLegacyId = c.byLegacyId.insertIfNew k.legacyId c.toList.length := by
  have htaken : c.byKey.contains k.canonicalKey = true ↔ ∃ l ∈ c.toList, l.same k = true := by
    rw [contains_iff h.toIndexed]
    refine exists_congr fun l => and_congr_right fun hl => ?_
    rw [(h.composed l hl).canonicalKey, hk.canonicalKey, Keyboard.same_iff]
  obtain ⟨he, hold⟩ | ⟨hz, hc, hfirst, hentries, -⟩ := Catalog.insert_cases c k
  · rw [htaken] at hold
    exact .inl ⟨hold, he⟩
  · refine .inr ⟨⟨hz, ?_⟩, hfirst, ?_, ?_⟩
    · intro l hl
      rw [← Bool.not_eq_true]
      intro hsame
      rw [htaken.2 ⟨l, hl, hsame⟩] at hc
      cases hc
    · rw [toList, hentries, Array.toList_push]
      rfl
    · simp only [Keyboard.canonicalKey] at hc
      simp [insert, hz, hc, hk.legacyId, toList]

/-- A keyboard at the end is found if no other is found before. -/
theorem findIdx?_snoc (ks : List Keyboard) (k : Keyboard) (p : Keyboard → Bool) :
    (ks ++ [k]).findIdx? p = (ks.findIdx? p).or (if p k then some ks.length else none) := by
  rw [List.findIdx?_append, List.findIdx?_singleton]
  cases p k <;> simp

theorem Scanned.insert (h : Scanned c) (hk : k.Composed) : Scanned (c.insert k).2 := by
  obtain ⟨-, he⟩ | ⟨-, -, hl, hbyId⟩ := h.insert_cases hk
  · rw [he]
    exact h
  refine ⟨indexed_insert h.toIndexed k, ?_, ?_⟩
  · rw [hl]
    intro l hmem
    rcases List.mem_append.1 hmem with hmem | hmem
    · exact h.composed l hmem
    · rw [List.mem_singleton.1 hmem]
      exact hk
  · intro id
    rw [hl, hbyId, Std.HashMap.getElem?_insertIfNew, findIdx?_snoc, ← h.byLegacyId]
    by_cases hid : k.legacyId = id
    · subst hid
      cases hold : c.byLegacyId[k.legacyId]? with
      | none =>
        have hout : k.legacyId ∉ c.byLegacyId := by simpa using hold
        simp [hout]
      | some i =>
        have hin : k.legacyId ∈ c.byLegacyId := by
          rw [Std.HashMap.mem_iff_isSome_getElem?, hold]
          rfl
        simp [hin]
    · simp [hid]

theorem toList_insert_eq_add (h : Scanned c) (hk : k.Composed) :
    (c.insert k).1 = (Listing.add k c.toList).1 ∧
    (c.insert k).2.toList = (Listing.add k c.toList).2 := by
  rw [Listing.add]
  obtain ⟨hold, he⟩ | ⟨⟨hz, hnew⟩, hfirst, hl, -⟩ := h.insert_cases hk
  · have hany : (k.isZero || c.toList.any (·.same k)) = true := by
      rw [Bool.or_eq_true, List.any_eq_true]
      exact hold
    rw [if_pos hany, he]
    exact ⟨rfl, rfl⟩
  · have hany : (k.isZero || c.toList.any (·.same k)) = false := by
      rw [Bool.or_eq_false_iff, List.any_eq_false]
      exact ⟨hz, fun l hl => by rw [hnew l hl]; exact Bool.false_ne_true⟩
    rw [hany, hfirst, hl]
    exact ⟨rfl, rfl⟩

theorem toList_insertAll_eq_addAll (h : Scanned c) (hks : ∀ k ∈ ks, k.Composed) :
    Scanned (c.insertAll ks).2 ∧
    (c.insertAll ks).2.toList = ks.foldl (fun ks k => (Listing.add k ks).2) c.toList := by
  induction ks generalizing c with
  | nil => exact ⟨h, rfl⟩
  | cons k ks ih =>
    obtain ⟨hk, hks⟩ := List.forall_mem_cons.1 hks
    rw [insertAll_cons, List.foldl_cons, ← (toList_insert_eq_add h hk).2]
    exact ih (h.insert hk) hks

theorem length_insert (c : Catalog) (k : Keyboard) :
    (c.insert k).2.toList.length = c.toList.length + if (c.insert k).1 then 1 else 0 := by
  obtain ⟨he, -⟩ | ⟨-, -, hfirst, hentries, -⟩ := Catalog.insert_cases c k
  · simp [he]
  · simp [hfirst, toList, hentries]

/-- The count of new keyboards is by how much the catalog grew. -/
theorem length_insertAll (c : Catalog) (ks : List Keyboard) :
    (c.insertAll ks).2.toList.length = c.toList.length + (c.insertAll ks).1 := by
  -- The induction is on the keyboards still to be added, from any count and catalog before.
  suffices h : ∀ (n : Nat) (c : Catalog),
      let r := ks.foldl (fun acc k => (if (acc.2.insert k).1 then acc.1 + 1 else acc.1,
        (acc.2.insert k).2)) (n, c)
      r.2.toList.length + n = c.toList.length + r.1 from h 0 c
  induction ks with
  | nil =>
    intro n c
    rfl
  | cons k ks ih =>
    intro n c
    have hrest := ih (if (c.insert k).1 then n + 1 else n) (c.insert k).2
    have hfirst := length_insert c k
    simp only [List.foldl_cons] at hrest ⊢
    split_ifs at hrest hfirst ⊢ <;> omega

section Flags

variable {layout locale : String} {flag : Bool}

@[simp] theorem layout_flagged (k : Keyboard) :
    (Listing.flagged layout locale flag k).layout = k.layout := by
  rw [Listing.flagged]
  split_ifs <;> rfl

@[simp] theorem locale_flagged (k : Keyboard) :
    (Listing.flagged layout locale flag k).locale = k.locale := by
  rw [Listing.flagged]
  split_ifs <;> rfl

@[simp] theorem legacyId_flagged (k : Keyboard) :
    (Listing.flagged layout locale flag k).legacyId = k.legacyId := by
  simp [Keyboard.legacyId]

theorem map_flagged_of_absent (h : ∀ k ∈ ks, k.key ≠ (nfc layout, nfc locale)) :
    ks.map (Listing.flagged layout locale flag) = ks := by
  have hsame : ∀ k ∈ ks, Listing.flagged layout locale flag k = id k := by
    intro k hk
    rw [Listing.flagged, if_neg (h k hk)]
    rfl
  rw [List.map_congr_left hsame, List.map_id]

/-- A flag set at the one position with a key is a flag set wherever the key is. -/
theorem modify_eq_map_flagged {i : Nat} (distinct : (ks.map Keyboard.key).Nodup)
    (hi : ks[i]? = some k) (hk : k.key = (nfc layout, nfc locale)) :
    ks.modify i ({ · with available := flag }) = ks.map (Listing.flagged layout locale flag) := by
  induction ks generalizing i with
  | nil => cases hi
  | cons l ks ih =>
    rw [List.map_cons, List.nodup_cons] at distinct
    cases i with
    | zero =>
      cases hi
      have hrest : ks.map (Listing.flagged layout locale flag) = ks := by
        apply map_flagged_of_absent
        intro m hm hkey
        exact distinct.1 (List.mem_map.2 ⟨m, hm, hkey.trans hk.symm⟩)
      rw [List.modify_zero_cons, List.map_cons, hrest, Listing.flagged, if_pos hk]
    | succ i =>
      have hhead : l.key ≠ (nfc layout, nfc locale) := by
        intro hkey
        exact distinct.1 (List.mem_map.2 ⟨k, List.mem_of_getElem? hi, hk.trans hkey.symm⟩)
      rw [List.modify_succ_cons, List.map_cons, ih distinct.2 hi, Listing.flagged, if_neg hhead]

theorem setAvailable_eq (h : Scanned c) (layout locale : String) (flag : Bool) :
    (c.setAvailable layout locale flag).1 = (Listing.setAvailable layout locale flag c.toList).1 ∧
    (c.setAvailable layout locale flag).2.toList =
      (Listing.setAvailable layout locale flag c.toList).2 ∧
    (c.setAvailable layout locale flag).2.byKey = c.byKey ∧
    (c.setAvailable layout locale flag).2.byLegacyId = c.byLegacyId := by
  simp only [setAvailable, Listing.setAvailable, keyOf]
  cases hi : c.byKey[(nfc layout, nfc locale)]? with
  | none =>
    rw [h.byKey_eq_findIdx?, List.findIdx?_eq_none_iff] at hi
    have hsame : c.toList.map (Listing.flagged layout locale flag) = c.toList :=
      map_flagged_of_absent fun k hk => by simpa using hi k hk
    refine ⟨?_, hsame.symm, rfl, rfl⟩
    rw [eq_comm, List.any_eq_false]
    intro k hk
    simpa using hi k hk
  | some i =>
    obtain ⟨k, hk, hkey⟩ := (h.getElem?_byKey _ i).1 hi
    refine ⟨?_, ?_, rfl, rfl⟩
    · rw [eq_comm, List.any_eq_true]
      exact ⟨k, List.mem_of_getElem? hk, by simpa using hkey⟩
    · rw [← modify_eq_map_flagged h.distinct hk hkey]
      simp [toList]

theorem Scanned.getElem?_setAvailable (h : Scanned c) (layout locale : String) (flag : Bool)
    (i : Nat) :
    (c.setAvailable layout locale flag).2.entries[i]? =
      (c.entries[i]?).map (Listing.flagged layout locale flag) := by
  obtain ⟨-, hl, -, -⟩ := setAvailable_eq h layout locale flag
  rw [← Array.getElem?_toList, ← Array.getElem?_toList, ← List.getElem?_map]
  exact congrArg (·[i]?) hl

theorem Scanned.setAvailable (h : Scanned c) (layout locale : String) (flag : Bool) :
    Scanned (c.setAvailable layout locale flag).2 := by
  obtain ⟨-, hl, hbyKey, hbyId⟩ := setAvailable_eq h layout locale flag
  rw [Listing.setAvailable] at hl
  have hmem : ∀ k ∈ (c.setAvailable layout locale flag).2.toList, ∃ l ∈ c.toList,
      Listing.flagged layout locale flag l = k := by
    intro k hk
    rw [hl] at hk
    exact List.mem_map.1 hk
  refine ⟨⟨?_, ?_⟩, ?_, ?_⟩
  · intro k hk
    obtain ⟨l, hold, rfl⟩ := hmem k hk
    simpa [Keyboard.isZero] using h.nonzero l hold
  · intro key i
    rw [hbyKey, h.byKey, h.getElem?_setAvailable]
    simp [Keyboard.canonicalKey]
  · intro k hk
    obtain ⟨l, hold, rfl⟩ := hmem k hk
    simpa [Keyboard.Composed] using h.composed l hold
  · intro id
    have hpred : (fun k : Keyboard => decide (k.legacyId = id)) ∘
        Listing.flagged layout locale flag = fun k => decide (k.legacyId = id) := by
      funext k
      simp only [Function.comp_apply, legacyId_flagged]
    rw [hbyId, h.byLegacyId, hl, List.findIdx?_map, hpred]

end Flags

/-- Every update keeps the indexes right, and its answer and the keyboards afterwards are those of
the list. -/
theorem Scanned.step (h : Scanned c) {u : Update} (hu : ∀ k ∈ u.keyboards, k.Composed) :
    Scanned (step u c).2 ∧ (Catalog.step u c).1 = (Listing.step u c.toList).1 ∧
    (Catalog.step u c).2.toList = (Listing.step u c.toList).2 := by
  cases u with
  | add k =>
    have hk := hu k (by simp [Update.keyboards])
    obtain ⟨hfirst, hl⟩ := toList_insert_eq_add h hk
    exact ⟨h.insert hk, congrArg Update.Outcome.flag hfirst, hl⟩
  | extend ks =>
    have hks : ∀ k ∈ ks, k.Composed := hu
    obtain ⟨hscanned, hl⟩ := toList_insertAll_eq_addAll h hks
    have hcount : (c.insertAll ks).1 = (Listing.addAll ks c.toList).1 := by
      have hlength := length_insertAll c ks
      rw [Listing.addAll, ← hl]
      omega
    exact ⟨hscanned, congrArg Update.Outcome.count hcount, hl⟩
  | clear => exact ⟨scanned_empty, rfl, rfl⟩
  | setAvailable layout locale flag =>
    obtain ⟨hfirst, hl, -, -⟩ := setAvailable_eq h layout locale flag
    exact ⟨h.setAvailable layout locale flag, congrArg Update.Outcome.flag hfirst, hl⟩

theorem after_snoc (us : List Update) (u : Update) : after (us ++ [u]) =
    ((after us).1 ++ [(step u (after us).2).1], (step u (after us).2).2) :=
  Update.run_snoc _ us u _

theorem scanned_after (made : ∀ u ∈ us, ∀ k ∈ u.keyboards, k.Made) :
    Scanned (after us).2 ∧ (after us).1 = (Listing.after us).1 ∧
    (after us).2.toList = (Listing.after us).2 := by
  induction us using List.reverseRecOn with
  | nil => exact ⟨scanned_empty, rfl, rfl⟩
  | append_singleton us u ih =>
    rw [List.forall_mem_append, List.forall_mem_singleton] at made
    obtain ⟨hscanned, houtcomes, hl⟩ := ih made.1
    obtain ⟨hafter, houtcome, hstep⟩ := hscanned.step fun k hk => (made.2 k hk).composed
    have hlist : Listing.after (us ++ [u]) = _ := Update.run_snoc Listing.step us u []
    rw [after_snoc, hlist]
    refine ⟨hafter, ?_, ?_⟩
    · simp only [houtcomes, houtcome, hl]
      rfl
    · simp only [hstep, hl]
      rfl

theorem Scanned.get?_eq (h : Scanned c) (layout locale : String) :
    c.get? layout locale = Listing.get? layout locale c.toList := by
  rw [get?, h.byKey_eq_findIdx?, Listing.get?, List.find?_eq_bind_findIdx?_getElem?]
  simp only [toList, Array.getElem?_toList]
  rfl

theorem Scanned.getId?_eq (h : Scanned c) (id : String) :
    c.getId? id = Listing.getId? id c.toList := by
  rw [getId?, Listing.getId?, h.byLegacyId, List.find?_eq_bind_findIdx?_getElem?]
  cases hi : c.toList.findIdx? fun k => k.legacyId = nfc id with
  | none =>
    have hget : c.get? = fun layout locale => Listing.get? layout locale c.toList := by
      funext layout locale
      exact h.get?_eq layout locale
    exact congrArg (fun get? => match Text.split '|' id with
      | [layout, locale] => get? layout locale
      | _ => none) hget
  | some i =>
    obtain ⟨hlt, -, -⟩ := List.findIdx?_eq_some_iff_getElem.1 hi
    rw [Option.bind_some, List.getElem?_eq_getElem hlt]
    simp [toList]

theorem Scanned.containsId_eq (h : Scanned c) (id : String) :
    c.containsId id = c.toList.any fun k => k.legacyId = nfc id := by
  rw [containsId, Std.HashMap.contains_eq_isSome_getElem?, h.byLegacyId, List.findIdx?_isSome]

theorem Scanned.contains_eq (h : Scanned c) (layout locale : String) :
    c.contains layout locale = c.toList.any fun k => k.key = (nfc layout, nfc locale) := by
  rw [contains, Std.HashMap.contains_eq_isSome_getElem?, h.byKey_eq_findIdx?, List.findIdx?_isSome]
  rfl

/-- A catalog stands for a list of keyboards: it holds these keyboards in this order, its indexes
lead where scans of the list from the front end, and what it does to them it does in the list. -/
structure Refines (c : Catalog) (ks : List Keyboard) : Prop where
  toList : c.toList = ks
  nonzero : ∀ k ∈ ks, k.isZero = false
  /-- No two keyboards share layout and locale. -/
  distinct : (ks.map Keyboard.key).Nodup
  byKey : ∀ key, c.byKey[key]? = ks.findIdx? fun k => k.key = key
  /-- The first keyboard with an old identifier has it. -/
  byLegacyId : ∀ id, c.byLegacyId[id]? = ks.findIdx? fun k => k.legacyId = id
  inRange : (∀ (key : String × String) (i : Nat), c.byKey[key]? = some i → i < c.entries.size) ∧
    ∀ (id : String) (i : Nat), c.byLegacyId[id]? = some i → i < c.entries.size
  get? : ∀ layout locale, c.get? layout locale = Listing.get? layout locale ks
  contains : ∀ layout locale, c.contains layout locale =
    ks.any fun k => k.key = (nfc layout, nfc locale)
  getId? : ∀ id, c.getId? id = Listing.getId? id ks
  containsId : ∀ id, c.containsId id = ks.any fun k => k.legacyId = nfc id
  /-- A keyboard is new unless it is zero or equal to one that is there; if not, nothing changes. -/
  insert : ∀ k : Keyboard, k.Made →
    ((c.insert k).1 = true ↔ k.isZero = false ∧ ∀ l ∈ ks, l.same k = false) ∧
    ((c.insert k).1 = false → (c.insert k).2 = c)
  /-- The count of new keyboards is by how much the catalog grows. -/
  insertAll : ∀ new, (c.insertAll new).2.size = c.size + (c.insertAll new).1
  /-- Setting a flag changes the flag of the keyboard with the key and nothing else. -/
  setAvailable : ∀ layout locale flag,
    let d := (c.setAvailable layout locale flag).2
    d.toList = ks.map (Listing.flagged layout locale flag) ∧
    d.byKey = c.byKey ∧ d.byLegacyId = c.byLegacyId ∧
    (∀ l m, d.get? l m = (c.get? l m).map (Listing.flagged layout locale flag)) ∧
    ∀ id, d.getId? id = (c.getId? id).map (Listing.flagged layout locale flag)

theorem Scanned.inRange (h : Scanned c) :
    (∀ (key : String × String) (i : Nat), c.byKey[key]? = some i → i < c.entries.size) ∧
    ∀ (id : String) (i : Nat), c.byLegacyId[id]? = some i → i < c.entries.size := by
  constructor
  · intro key i hi
    rw [h.byKey_eq_findIdx?] at hi
    obtain ⟨hlt, -⟩ := List.findIdx?_eq_some_iff_getElem.1 hi
    simpa [toList] using hlt
  · intro id i hi
    rw [h.byLegacyId] at hi
    obtain ⟨hlt, -⟩ := List.findIdx?_eq_some_iff_getElem.1 hi
    simpa [toList] using hlt

theorem Scanned.insert_iff (h : Scanned c) (hk : k.Composed) :
    ((c.insert k).1 = true ↔ k.isZero = false ∧ ∀ l ∈ c.toList, l.same k = false) ∧
    ((c.insert k).1 = false → (c.insert k).2 = c) := by
  obtain ⟨hold, he⟩ | ⟨hnew, hfirst, -⟩ := h.insert_cases hk
  · refine ⟨iff_of_false (by simp [he]) ?_, fun _ => by rw [he]⟩
    rintro ⟨hz, hnone⟩
    rcases hold with hold | ⟨l, hl, hsame⟩
    · rw [hz] at hold
      cases hold
    · rw [hnone l hl] at hsame
      cases hsame
  · refine ⟨iff_of_true hfirst hnew, fun hfalse => ?_⟩
    rw [hfirst] at hfalse
    cases hfalse

/-- Lookups after a flag was set find what they found before, with the flag. -/
theorem Scanned.lookups_setAvailable (h : Scanned c) (layout locale : String) (flag : Bool) :
    let d := (c.setAvailable layout locale flag).2
    (∀ l m, d.get? l m = (c.get? l m).map (Listing.flagged layout locale flag)) ∧
    ∀ id, d.getId? id = (c.getId? id).map (Listing.flagged layout locale flag) := by
  obtain ⟨-, -, hbyKey, hbyId⟩ := setAvailable_eq h layout locale flag
  have hget : ∀ l m, (c.setAvailable layout locale flag).2.get? l m =
      (c.get? l m).map (Listing.flagged layout locale flag) := by
    intro l m
    rw [get?, get?, hbyKey, Option.map_bind]
    simp only [h.getElem?_setAvailable]
    rfl
  refine ⟨hget, ?_⟩
  intro id
  rw [getId?, getId?, hbyId]
  cases c.byLegacyId[nfc id]? with
  | some i => exact h.getElem?_setAvailable layout locale flag i
  | none =>
    simp only
    split
    · exact hget _ _
    · rfl

theorem Scanned.refines (h : Scanned c) : Refines c c.toList where
  toList := rfl
  nonzero := h.nonzero
  distinct := h.distinct
  byKey := h.byKey_eq_findIdx?
  byLegacyId := h.byLegacyId
  inRange := h.inRange
  get? := h.get?_eq
  contains := h.contains_eq
  getId? := h.getId?_eq
  containsId := h.containsId_eq
  insert _ hk := h.insert_iff hk.composed
  insertAll new := by
    have hlength := length_insertAll c new
    simpa [Catalog.toList, size] using hlength
  setAvailable layout locale flag := by
    obtain ⟨-, hl, hbyKey, hbyId⟩ := setAvailable_eq h layout locale flag
    exact ⟨hl, hbyKey, hbyId, h.lookups_setAvailable layout locale flag⟩

/-- Whatever updates made a catalog, it answered them as the list does that is searched from its
front, and it stands for that list. -/
theorem after_refines (made : ∀ u ∈ us, ∀ k ∈ u.keyboards, k.Made) :
    (after us).1 = (Listing.after us).1 ∧ Refines (after us).2 (Listing.after us).2 := by
  obtain ⟨hscanned, houtcomes, hl⟩ := scanned_after made
  exact ⟨houtcomes, hl ▸ hscanned.refines⟩

/-- Two of three keyboards share an old identifier, and the third one is there already: its layout
is written with a combining cedilla. -/
theorem after_refines_shared : ∃ us : List Update, (∀ u ∈ us, ∀ k ∈ u.keyboards, k.Made) ∧
    (after us).1 = [.count 2, .flag false, .flag true] ∧
    (after us).2.byLegacyId["ç-x-y"]? = some 0 ∧
    ((after us).2.get? "c\u0327" "x-y").map (fun k => (k.key, k.available)) =
      some (("ç", "x-y"), false) := by
  let us : List Update := [
    .extend [.make "ç-x" "y" .primary "system", .make "ç" "x-y" .primary "system"],
    .add (.make "c\u0327" "x-y" .secondary "methods"),
    .setAvailable "c\u0327" "x-y" false]
  have made : ∀ u ∈ us, ∀ k ∈ u.keyboards, k.Made := by
    simp [us, Update.keyboards, Keyboard.Made.make]
  obtain ⟨houtcomes, h⟩ := after_refines made
  refine ⟨us, made, ?_, ?_, ?_⟩
  · rw [houtcomes]
    decide +kernel
  · rw [h.byLegacyId]
    decide +kernel
  · rw [h.get?]
    decide +kernel

end Catalog

end Keyboards
