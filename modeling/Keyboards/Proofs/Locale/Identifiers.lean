import Keyboards.Locale.WindowsId
import Mathlib.Data.List.Basic

/-! Numeric identifiers and names of locales: each leads to the other, in whatever order the table
of both is gone through. -/

namespace Keyboards.Locale

variable {id : Nat} {name locale : String} {table : List (Nat × String)}

/-- A table in which no two entries have one identifier, or names that are equal up to case. -/
structure Unambiguous (table : List (Nat × String)) : Prop where
  ids : ∀ e ∈ table, ∀ f ∈ table, e.1 = f.1 → e = f
  names : ∀ e ∈ table, ∀ f ∈ table, sameName e.2 f.2 = true → e = f

/-- The identifier of a locale, by a table that is gone through in its own order. -/
def windowsIdIn? (table : List (Nat × String)) (locale : String) : Option Nat :=
  (table.find? fun e => sameName e.2 locale).map (·.1)

theorem unambiguous_windowsIds : Unambiguous windowsIds :=
  ⟨by decide +kernel, by decide +kernel⟩

theorem Unambiguous.of_perm {other : List (Nat × String)} (h : Unambiguous table)
    (order : other.Perm table) : Unambiguous other := by
  constructor
  · intro e he f hf
    exact h.ids e (order.mem_iff.1 he) f (order.mem_iff.1 hf)
  · intro e he f hf
    exact h.names e (order.mem_iff.1 he) f (order.mem_iff.1 hf)

theorem sameName_iff {a b : String} :
    sameName a b = true ↔ a.toList.map Char.toLower = b.toList.map Char.toLower := by
  rw [sameName, beq_iff_eq]

theorem sameName_comm (a b : String) : sameName a b = sameName b a := by
  rw [Bool.eq_iff_iff, sameName_iff, sameName_iff, eq_comm]

/-- What is looked up by identifier is what the table has. -/
theorem Unambiguous.lookup_eq_some_iff (h : Unambiguous table) :
    table.lookup id = some name ↔ (id, name) ∈ table := by
  have found : ∀ {name}, table.lookup id = some name → (id, name) ∈ table := by
    intro name hname
    obtain ⟨before, after, rfl, -⟩ := List.lookup_eq_some_iff.1 hname
    simp
  refine ⟨found, fun hmem => ?_⟩
  cases hother : table.lookup id with
  | none =>
    have hne := List.lookup_eq_none_iff.1 hother _ hmem
    simp at hne
  | some other =>
    have hsame : (id, other) = (id, name) := h.ids _ (found hother) _ hmem rfl
    rw [(Prod.mk.inj hsame).2]

/-- What is found by name is what the table has, for a name that differs in case at most. -/
theorem Unambiguous.windowsIdIn?_eq_some_iff (h : Unambiguous table) :
    windowsIdIn? table locale = some id ↔
      ∃ name, (id, name) ∈ table ∧ sameName name locale = true := by
  rw [windowsIdIn?]
  constructor
  · intro hid
    obtain ⟨e, he, rfl⟩ := Option.map_eq_some_iff.1 hid
    have hsame : sameName e.2 locale = true := by simpa using List.find?_some he
    exact ⟨e.2, List.mem_of_find?_eq_some he, hsame⟩
  · rintro ⟨name, hmem, hname⟩
    cases hfound : table.find? fun e => sameName e.2 locale with
    | none =>
      have hother := List.find?_eq_none.1 hfound _ hmem
      exact (hother hname).elim
    | some e =>
      have he : sameName e.2 locale = true := by simpa using List.find?_some hfound
      have hboth : sameName e.2 name = true := by
        rw [sameName_iff] at he hname ⊢
        rw [he, hname]
      obtain rfl : e = (id, name) := h.names _ (List.mem_of_find?_eq_some hfound) _ hmem hboth
      rfl

/-- The order of the table does not matter to which identifier a locale has. -/
theorem windowsIdIn?_of_perm (order : table.Perm windowsIds) (locale : String) :
    windowsIdIn? table locale = windowsId? locale := by
  apply Option.ext
  intro id
  have hin : windowsIdIn? windowsIds locale = windowsId? locale := rfl
  rw [← hin, (unambiguous_windowsIds.of_perm order).windowsIdIn?_eq_some_iff,
    unambiguous_windowsIds.windowsIdIn?_eq_some_iff]
  simp only [order.mem_iff]

/-- A locale has an identifier exactly if the identifier is that of the locale, up to case. -/
theorem windowsId?_eq_some_iff :
    windowsId? locale = some id ↔
      ∃ name, ofWindowsId? id = some name ∧ sameName locale name = true := by
  have hin : windowsIdIn? windowsIds locale = windowsId? locale := rfl
  rw [← hin, unambiguous_windowsIds.windowsIdIn?_eq_some_iff]
  simp only [ofWindowsId?, unambiguous_windowsIds.lookup_eq_some_iff, sameName_comm locale]

end Keyboards.Locale
