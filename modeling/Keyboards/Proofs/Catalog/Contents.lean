import Mathlib.Tactic.Common
import Keyboards.Catalog

/-! What a catalog holds after keyboards were added: of each key the first keyboard. -/

namespace Keyboards

/-- The key of a keyboard in the form in which catalogs compare keys. -/
def Keyboard.canonicalKey (k : Keyboard) : String × String := Catalog.keyOf k.layout k.locale

namespace Catalog

variable {c : Catalog} {k : Keyboard} {ks ls : List Keyboard}

/-- Of each key the first keyboard, in order and without zero keyboards. -/
def firstOfEach : List Keyboard → List Keyboard
  | [] => []
  | k :: ks =>
    if k.isZero then firstOfEach ks
    else k :: (firstOfEach ks).filter (·.canonicalKey ≠ k.canonicalKey)

/-- The index by key leads to the keyboards, and no zero keyboard is held. -/
structure Indexed (c : Catalog) : Prop where
  nonzero : ∀ k ∈ c.toList, k.isZero = false
  byKey : ∀ key i, c.byKey[key]? = some i ↔
    ∃ k : Keyboard, c.entries[i]? = some k ∧ k.canonicalKey = key

theorem indexed_empty : Indexed empty := by
  constructor
  · intro k hk
    simp [toList, empty] at hk
  · intro key i
    simp [empty]

theorem contains_iff (h : Indexed c) :
    c.byKey.contains k.canonicalKey = true ↔ ∃ l ∈ c.toList, l.canonicalKey = k.canonicalKey := by
  rw [Std.HashMap.contains_eq_isSome_getElem?, Option.isSome_iff_exists]
  constructor
  · rintro ⟨i, hi⟩
    obtain ⟨l, hl, hk⟩ := (h.byKey _ _).1 hi
    exact ⟨l, Array.mem_toList_iff.2 (Array.mem_of_getElem? hl), hk⟩
  · rintro ⟨l, hl, hk⟩
    obtain ⟨i, hi⟩ := Array.mem_iff_getElem?.1 (Array.mem_toList_iff.1 hl)
    exact ⟨i, (h.byKey _ _).2 ⟨l, hi, hk⟩⟩

/-- What adding a keyboard does: a zero keyboard and one whose key is taken change nothing. -/
theorem insert_cases (c : Catalog) (k : Keyboard) :
    (c.insert k = (false, c) ∧ (k.isZero = true ∨ c.byKey.contains k.canonicalKey = true)) ∨
    (k.isZero = false ∧ c.byKey.contains k.canonicalKey = false ∧ (c.insert k).1 = true ∧
      (c.insert k).2.entries = c.entries.push k ∧
      (c.insert k).2.byKey = c.byKey.insert k.canonicalKey c.entries.size) := by
  by_cases hz : k.isZero = true
  · exact .inl ⟨by simp [insert, hz], .inl hz⟩
  · by_cases hc : c.byKey.contains k.canonicalKey = true
    · refine .inl ⟨?_, .inr hc⟩
      simp only [Keyboard.canonicalKey] at hc
      simp only [insert, hz, hc, if_true]
      rfl
    · refine .inr ⟨by simpa using hz, by simpa using hc, ?_⟩
      simp only [Keyboard.canonicalKey] at hc
      simp [insert, hz, hc, Keyboard.canonicalKey]

theorem toList_insert (h : Indexed c) (k : Keyboard) :
    (c.insert k).2.toList =
      if k.isZero = true ∨ ∃ l ∈ c.toList, l.canonicalKey = k.canonicalKey then c.toList
      else c.toList ++ [k] := by
  obtain ⟨he, hk⟩ | ⟨hz, hc, -, he, -⟩ := insert_cases c k
  · rw [contains_iff h] at hk
    rw [he, if_pos hk]
  · rw [← Bool.not_eq_true, contains_iff h] at hc
    rw [if_neg (by simp only [hz, hc]; simp), toList, he, Array.toList_push]
    rfl

theorem indexed_insert (h : Indexed c) (k : Keyboard) : Indexed (c.insert k).2 := by
  obtain ⟨he, -⟩ | ⟨hz, hc, -, he, hb⟩ := insert_cases c k
  · rw [he]
    exact h
  · rw [← Bool.not_eq_true, contains_iff h] at hc
    constructor
    · intro l hl
      rw [toList, he, Array.toList_push, List.mem_append] at hl
      rcases hl with hl | hl
      · exact h.nonzero l hl
      · rw [List.mem_singleton.1 hl]
        exact hz
    · intro key i
      rw [he, hb, Std.HashMap.getElem?_insert, Array.getElem?_push]
      by_cases hi : i = c.entries.size
      · subst hi
        by_cases hk : k.canonicalKey = key
        · simp [hk]
        · have hn : c.byKey[key]? ≠ some c.entries.size := by
            intro hs
            obtain ⟨l, hl, -⟩ := (h.byKey _ _).1 hs
            simp at hl
          simp [hk, hn]
      · by_cases hk : k.canonicalKey = key
        · subst hk
          have hn : ¬ ∃ l, c.entries[i]? = some l ∧ l.canonicalKey = k.canonicalKey := by
            rintro ⟨l, hl, hk⟩
            exact hc ⟨l, Array.mem_toList_iff.2 (Array.mem_of_getElem? hl), hk⟩
          simp only [BEq.rfl, if_true, Option.some.injEq, hi, if_false, iff_false, hn]
          exact Ne.symm hi
        · simp only [beq_iff_eq, hk, hi, if_false]
          exact h.byKey key i

/-- The count that a fold carries along does not matter for the catalog. -/
theorem foldl_snd {f : Nat × Catalog → Keyboard → Nat × Catalog}
    (hf : ∀ n m c k, (f (n, c) k).2 = (f (m, c) k).2) (n m : Nat) (c : Catalog)
    (ks : List Keyboard) : (ks.foldl f (n, c)).2 = (ks.foldl f (m, c)).2 := by
  induction ks generalizing n m c with
  | nil => rfl
  | cons k ks ih =>
    have hk : f (m, c) k = ((f (m, c) k).1, (f (n, c) k).2) := by rw [hf n m c k]
    rw [List.foldl_cons, List.foldl_cons, hk]
    exact ih _ _ _

theorem insertAll_cons (c : Catalog) (k : Keyboard) (ks : List Keyboard) :
    (c.insertAll (k :: ks)).2 = ((c.insert k).2.insertAll ks).2 :=
  foldl_snd (fun _ _ _ _ => rfl) _ _ _ ks

theorem insertAll_append (c : Catalog) (ks ls : List Keyboard) :
    (c.insertAll (ks ++ ls)).2 = ((c.insertAll ks).2.insertAll ls).2 := by
  induction ks generalizing c with
  | nil => rfl
  | cons k ks ih => rw [List.cons_append, insertAll_cons, insertAll_cons, ih]

theorem indexed_insertAll (h : Indexed c) (ks : List Keyboard) : Indexed (c.insertAll ks).2 := by
  induction ks generalizing c with
  | nil => exact h
  | cons k ks ih =>
    rw [insertAll_cons]
    exact ih (indexed_insert h k)

theorem indexed_ofList (ks : List Keyboard) : Indexed (ofList ks) :=
  indexed_insertAll indexed_empty ks

/-- The keyboards whose keys are not among those of `taken`. -/
def unseen (taken ks : List Keyboard) : List Keyboard :=
  ks.filter fun k => ∀ l ∈ taken, l.canonicalKey ≠ k.canonicalKey

/-- Taking one more keyboard away first takes its whole key away. -/
theorem unseen_append_singleton (ls ks : List Keyboard) (k : Keyboard) :
    unseen (ls ++ [k]) ks = unseen ls (ks.filter (·.canonicalKey ≠ k.canonicalKey)) := by
  rw [unseen, unseen, List.filter_filter]
  apply List.filter_congr
  intro m _
  simp only [List.mem_append, List.mem_singleton, ne_eq, decide_eq_decide, ← Bool.decide_and]
  constructor
  · intro hall
    exact ⟨fun l hl => hall l (.inl hl), fun he => hall k (.inr rfl) he.symm⟩
  · rintro ⟨hall, hk⟩ l (hl | rfl)
    · exact hall l hl
    · exact Ne.symm hk

/-- Whatever shares a key that is taken is refused anyway. -/
theorem unseen_filter_of_taken {l : Keyboard} (hl : l ∈ ls)
    (hk : l.canonicalKey = k.canonicalKey) :
    unseen ls (ks.filter (·.canonicalKey ≠ k.canonicalKey)) = unseen ls ks := by
  rw [unseen, unseen, List.filter_filter]
  apply List.filter_congr
  intro m _
  simp only [decide_eq_decide, ← Bool.decide_and, and_iff_left_iff_imp]
  intro hall he
  exact hall l hl (hk.trans he.symm)

/-- The keyboards that are new to a catalog come behind those that it has. -/
theorem toList_insertAll (h : Indexed c) (ks : List Keyboard) :
    (c.insertAll ks).2.toList = c.toList ++ unseen c.toList (firstOfEach ks) := by
  induction ks generalizing c with
  | nil => simp [firstOfEach, insertAll, unseen]
  | cons k ks ih =>
    rw [insertAll_cons, ih (indexed_insert h k), toList_insert h, firstOfEach]
    by_cases hz : k.isZero = true
    · rw [if_pos (.inl hz), if_pos hz]
    · by_cases hk : ∃ l ∈ c.toList, l.canonicalKey = k.canonicalKey
      · obtain ⟨l, hl, hlk⟩ := hk
        have hskip : unseen c.toList (k :: (firstOfEach ks).filter
            (·.canonicalKey ≠ k.canonicalKey)) =
            unseen c.toList ((firstOfEach ks).filter (·.canonicalKey ≠ k.canonicalKey)) := by
          apply List.filter_cons_of_neg
          simp only [decide_eq_true_eq]
          intro hall
          exact hall l hl hlk
        rw [if_pos (.inr ⟨l, hl, hlk⟩), if_neg hz, hskip, unseen_filter_of_taken hl hlk]
      · have hkeep : unseen c.toList (k :: (firstOfEach ks).filter
            (·.canonicalKey ≠ k.canonicalKey)) =
            k :: unseen c.toList ((firstOfEach ks).filter (·.canonicalKey ≠ k.canonicalKey)) := by
          apply List.filter_cons_of_pos
          simp only [decide_eq_true_eq]
          intro l hl he
          exact hk ⟨l, hl, he⟩
        rw [if_neg (not_or.2 ⟨hz, hk⟩), if_neg hz, hkeep, unseen_append_singleton,
          List.append_assoc, List.singleton_append]

/-- A catalog filled from a list holds the first keyboard of each key. -/
theorem toList_ofList (ks : List Keyboard) : (ofList ks).toList = firstOfEach ks := by
  rw [ofList, toList_insertAll indexed_empty]
  simp [toList, empty, unseen]

/-- The keyboard found under a key is an entry with that key. -/
theorem get?_eq_some (h : Indexed c) {layout locale : String} (hk : c.get? layout locale = some k) :
    k ∈ c.toList ∧ k.canonicalKey = keyOf layout locale := by
  obtain ⟨i, hi, hk⟩ := Option.bind_eq_some_iff.1 hk
  obtain ⟨l, hl, hkey⟩ := (h.byKey _ _).1 hi
  rw [hk, Option.some.injEq] at hl
  subst hl
  exact ⟨Array.mem_toList_iff.2 (Array.mem_of_getElem? hk), hkey⟩

/-- A keyboard that was found under any key is found under its own. -/
theorem get?_own (h : Indexed c) {layout locale : String} (hk : c.get? layout locale = some k) :
    c.get? k.layout k.locale = some k := by
  have hkey := (get?_eq_some h hk).2
  rw [get?] at hk ⊢
  rw [show keyOf k.layout k.locale = keyOf layout locale from hkey]
  exact hk

/-- Every entry is found under its own key. -/
theorem get?_of_mem (h : Indexed c) (hk : k ∈ c.toList) : c.get? k.layout k.locale = some k := by
  obtain ⟨i, hi⟩ := Array.mem_iff_getElem?.1 (Array.mem_toList_iff.1 hk)
  have hkey : c.byKey[keyOf k.layout k.locale]? = some i := (h.byKey _ _).2 ⟨k, hi, rfl⟩
  rw [get?, hkey, Option.bind_some, hi]

/-- Every keyboard shares its key with the first one that has it. -/
theorem exists_mem_firstOfEach (hk : k ∈ ks) (nonzero : k.isZero = false) :
    ∃ r ∈ firstOfEach ks, r ∈ ks ∧ r.canonicalKey = k.canonicalKey := by
  induction ks with
  | nil => cases hk
  | cons l ks ih =>
    rw [firstOfEach]
    by_cases hl : l.isZero = true
    · have hin : k ∈ ks := by
        rcases List.mem_cons.1 hk with rfl | hk
        · rw [hl] at nonzero
          cases nonzero
        · exact hk
      obtain ⟨r, hr, hmem, hsame⟩ := ih hin
      rw [if_pos hl]
      exact ⟨r, hr, List.mem_cons_of_mem l hmem, hsame⟩
    · rw [if_neg hl]
      by_cases hkey : k.canonicalKey = l.canonicalKey
      · exact ⟨l, List.mem_cons_self, List.mem_cons_self, hkey.symm⟩
      · have hin : k ∈ ks := (List.mem_cons.1 hk).resolve_left fun he => hkey (he ▸ rfl)
        obtain ⟨r, hr, hmem, hsame⟩ := ih hin
        have hother : r ∈ (firstOfEach ks).filter (·.canonicalKey ≠ l.canonicalKey) := by
          apply List.mem_filter.2
          exact ⟨hr, by simpa [hsame] using hkey⟩
        exact ⟨r, List.mem_cons_of_mem l hother, List.mem_cons_of_mem l hmem, hsame⟩

/-- Whatever comes behind, a key of the keyboards in front leads to one of them. -/
theorem get?_ofList_append (hk : k ∈ ks) (nonzero : k.isZero = false) (ls : List Keyboard) :
    ∃ r ∈ ks, r.canonicalKey = k.canonicalKey ∧
      (ofList (ks ++ ls)).get? k.layout k.locale = some r := by
  obtain ⟨r, hfirst, hr, hkey⟩ := exists_mem_firstOfEach hk nonzero
  have hin : r ∈ (ofList (ks ++ ls)).toList := by
    rw [ofList, insertAll_append, toList_insertAll (indexed_insertAll indexed_empty ks)]
    apply List.mem_append_left
    rw [← toList_ofList] at hfirst
    exact hfirst
  have hget := get?_of_mem (indexed_ofList _) hin
  refine ⟨r, hr, hkey, ?_⟩
  rw [get?] at hget ⊢
  rw [show keyOf k.layout k.locale = keyOf r.layout r.locale from hkey.symm]
  exact hget

theorem get?_eq_none (h : Indexed c) {layout locale : String}
    (hk : ∀ k ∈ c.toList, k.canonicalKey ≠ keyOf layout locale) : c.get? layout locale = none := by
  rw [Option.eq_none_iff_forall_ne_some]
  intro k hs
  obtain ⟨hmem, hkey⟩ := get?_eq_some h hs
  exact hk k hmem hkey

theorem isZero_of_get? (h : Indexed c) {layout locale : String}
    (hk : c.get? layout locale = some k) : k.isZero = false :=
  h.nonzero k (get?_eq_some h hk).1

end Catalog

end Keyboards
