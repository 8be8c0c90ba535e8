import Mathlib.Data.List.Induction
import Keyboards.Proofs.Session.Installation

/-! Which adaptors a selection chooses, and that it loses none. -/

namespace Keyboards.Selection

variable {s : Selection} {v : Verdict} {vs : List Verdict} {a : Adaptor} {c : Category}

/-- The last adaptor of a category that called itself applicable. -/
def lastApplicable (c : Category) (vs : List Verdict) : Option Adaptor :=
  ((vs.filter fun v => v.2 && v.1.category = c).map Prod.fst).getLast?

theorem lastApplicable_mem (h : lastApplicable c vs = some a) :
    a ∈ vs.map Prod.fst ∧ a.category = c := by
  obtain ⟨v, hv, rfl⟩ := List.mem_map.1 (List.mem_of_getLast? h)
  simp only [List.mem_filter, Bool.and_eq_true, decide_eq_true_eq] at hv
  exact ⟨List.mem_map_of_mem hv.1, hv.2.2⟩

theorem lastApplicable_snoc (c : Category) (vs : List Verdict) (v : Verdict) :
    lastApplicable c (vs ++ [v]) =
      if v.2 = true ∧ v.1.category = c then some v.1 else lastApplicable c vs := by
  by_cases hv : v.2 = true ∧ v.1.category = c
  · simp [lastApplicable, List.filter_append, hv]
  · rw [if_neg hv, lastApplicable, lastApplicable, List.filter_append, List.filter_cons_of_neg]
    · simp
    · simpa using hv

theorem ofVerdicts_snoc (vs : List Verdict) (v : Verdict) :
    ofVerdicts (vs ++ [v]) = (ofVerdicts vs).judge v := by
  simp [ofVerdicts]

/-- The adaptor that holds the place of a category. -/
def place (s : Selection) : Category → Option Adaptor
  | .primary => s.primary
  | .secondary => s.secondary

/-- In each place stands the last applicable adaptor of its category. -/
theorem place_ofVerdicts (c : Category) (vs : List Verdict) :
    (ofVerdicts vs).place c = lastApplicable c vs := by
  induction vs using List.reverseRecOn with
  | nil => cases c <;> rfl
  | append_singleton vs v ih =>
    rw [ofVerdicts_snoc, lastApplicable_snoc, ← ih]
    obtain ⟨a, applicable⟩ := v
    cases applicable with
    | false => cases c <;> simp [judge, place]
    | true => cases c <;> cases hc : a.category <;> simp [judge, choose, place, hc]

theorem primary_ofVerdicts (vs : List Verdict) :
    (ofVerdicts vs).primary = lastApplicable .primary vs := place_ofVerdicts .primary vs

theorem secondary_ofVerdicts (vs : List Verdict) :
    (ofVerdicts vs).secondary = lastApplicable .secondary vs := place_ofVerdicts .secondary vs

/-- All adaptors in hand. -/
def all (s : Selection) : List Adaptor := s.unused ++ (s.primary.toList ++ s.secondary.toList)

theorem all_choose (s : Selection) (a : Adaptor) : (s.choose a).all.Perm (s.all ++ [a]) := by
  obtain ⟨primary, secondary, unused⟩ := s
  rw [List.perm_iff_count]
  intro b
  cases hc : a.category with
  | primary => simp [choose, hc, all, List.count_cons]
  | secondary =>
    simp [choose, hc, all, List.count_cons]
    omega

/-- Every adaptor that was judged is in hand, as often as it was judged. -/
theorem all_ofVerdicts (vs : List Verdict) : (ofVerdicts vs).all.Perm (vs.map Prod.fst) := by
  induction vs using List.reverseRecOn with
  | nil => exact .refl _
  | append_singleton vs v ih =>
    rw [ofVerdicts_snoc, List.map_append, List.map_singleton]
    refine .trans ?_ (ih.append_right [v.1])
    obtain ⟨a, applicable⟩ := v
    cases applicable with
    | true => exact all_choose _ a
    | false =>
      rw [List.perm_iff_count]
      intro b
      simp [judge, all, List.count_cons]
      omega

end Keyboards.Selection
