import Keyboards.Proofs.Text.Lines
import Keyboards.Xkb.Rules
import Mathlib.Data.List.Basic
import Mathlib.Data.Set.Function

/-! A layout name comes apart into the code and the variant that it was made of, and a name is made
again of what it came apart into if its parentheses hold something. -/

namespace Keyboards.Xkb

variable {code name : String} {front rest cs text : List Char}

theorem joinName_of_ne {v : String} (h : v ≠ "") :
    joinName code (some v) = code ++ "(" ++ v ++ ")" := by
  rw [joinName, if_neg h]

/-- An empty variant is as good as none. -/
theorem joinName_getD (code : String) (variant : Option String) :
    joinName code (some (variant.getD "")) = joinName code variant := by
  cases variant <;> rfl

theorem unclose?_append (cs : List Char) : unclose? (cs ++ [')']) = some cs := by
  simp [unclose?]

theorem unclose?_eq_some_iff : unclose? cs = some text ↔ cs = text ++ [')'] := by
  constructor
  · intro h
    rw [unclose?] at h
    split at h
    next hlast =>
      obtain ⟨before, rfl⟩ := List.getLast?_eq_some_iff.1 hlast
      simpa using h
    next => cases h
  · rintro rfl
    exact unclose?_append text

theorem splitName_code (h : '(' ∉ code.toList) : splitName code = (code, none) := by
  rw [splitName, Text.cut?_eq_none h]

/-- What opens a parenthesis has a variant if it closes it at the end, with something between. -/
theorem splitName_of_opens (h : '(' ∉ front) (hname : name.toList = front ++ '(' :: rest) :
    splitName name =
      (String.ofList front, ((unclose? rest).filter (!·.isEmpty)).map String.ofList) := by
  rw [splitName, hname, Text.cut?_append h]

/-- Whatever parentheses the variant has, it comes back if the code has none that opens. -/
theorem splitName_joinName (h : '(' ∉ code.toList) (variant : Option String) :
    splitName (joinName code variant) = (code, variant.filter (· ≠ "")) := by
  cases variant with
  | none => exact splitName_code h
  | some v =>
    by_cases hv : v = ""
    · subst hv
      exact splitName_code h
    · have hname : (joinName code (some v)).toList = code.toList ++ '(' :: (v.toList ++ [')']) := by
        rw [joinName_of_ne hv]
        simp
      rw [splitName_of_opens h hname]
      simp [unclose?_append, hv, Option.filter, String.toList_eq_nil_iff]

theorem splitName_joinName_of_ne {variant : Option String} (h : '(' ∉ code.toList)
    (hvariant : variant ≠ some "") : splitName (joinName code variant) = (code, variant) := by
  rw [splitName_joinName h]
  cases variant with
  | none => rfl
  | some v =>
    have hv : v ≠ "" := fun he => hvariant (congrArg some he)
    simp [Option.filter, hv]

/-- A closing parenthesis ends the name, and something stands between it and the first one that
opens. -/
def Bracketed (name : String) : Prop :=
  name.toList.getLast? = some ')' ∧ name.toList.idxOf '(' + 1 < name.toList.length - 1

instance (name : String) : Decidable (Bracketed name) := inferInstanceAs (Decidable (_ ∧ _))

theorem bracketed_iff (h : '(' ∉ front) (hname : name.toList = front ++ '(' :: rest) :
    Bracketed name ↔ ∃ v, v ≠ [] ∧ rest = v ++ [')'] := by
  have hopen : name.toList.idxOf '(' = front.length := by
    rw [hname, List.idxOf_append_of_notMem h, List.idxOf_cons_self, Nat.add_zero]
  have hlength : name.toList.length = front.length + (rest.length + 1) := by
    rw [hname, List.length_append, List.length_cons]
  rw [Bracketed, hopen, hlength, hname, List.append_cons]
  constructor
  · rintro ⟨hlast, hroom⟩
    have hrest : rest ≠ [] := by
      rintro rfl
      rw [List.length_nil] at hroom
      omega
    rw [List.getLast?_append_of_ne_nil _ hrest] at hlast
    obtain ⟨v, rfl⟩ := List.getLast?_eq_some_iff.1 hlast
    refine ⟨v, ?_, rfl⟩
    rintro rfl
    rw [List.nil_append, List.length_singleton] at hroom
    omega
  · rintro ⟨v, hv, rfl⟩
    have hpos := List.length_pos_iff.2 hv
    refine ⟨by rw [← List.append_assoc, List.getLast?_concat], ?_⟩
    rw [List.length_append, List.length_singleton]
    omega

/-- A name with a parenthesis is made again of its parts exactly if it is bracketed. -/
theorem joinName_splitName_of_opens (h : '(' ∉ front) (hname : name.toList = front ++ '(' :: rest) :
    joinName (splitName name).1 (splitName name).2 = name ↔ Bracketed name := by
  rw [splitName_of_opens h hname, bracketed_iff h hname]
  cases hvariant : (unclose? rest).filter (!·.isEmpty) with
  | none =>
    constructor
    · intro hjoin
      have hfront : front = name.toList := by
        rw [← hjoin]
        simp [joinName]
      rw [hname] at hfront
      simp at hfront
    · rintro ⟨v, hv, rfl⟩
      simp [unclose?_append, hv, Option.filter] at hvariant
  | some v =>
    obtain ⟨hclose, hv⟩ := Option.filter_eq_some_iff.1 hvariant
    obtain rfl := unclose?_eq_some_iff.1 hclose
    have hne : v ≠ [] := by simpa using hv
    refine iff_of_true ?_ ⟨v, hne, rfl⟩
    rw [← String.toList_inj, hname]
    simp [joinName, hne]

/-- Names and their parts are inverse to each other. What a name is made of comes back, if the code
opens no parenthesis and for whatever parentheses the variant has, so that other parts make another
name; and a name is made again of its parts if it opens no parenthesis or is bracketed. -/
theorem name_parts_inverse :
    (∀ code variant, '(' ∉ code.toList →
      splitName (joinName code variant) = (code, variant.filter (· ≠ ""))) ∧
    Set.InjOn (fun p : String × Option String => joinName p.1 p.2)
      {p | '(' ∉ p.1.toList ∧ p.2 ≠ some ""} ∧
    ∀ name, joinName (splitName name).1 (splitName name).2 = name ↔
      '(' ∉ name.toList ∨ Bracketed name := by
  refine ⟨fun code variant h => splitName_joinName h variant, ?_, fun name => ?_⟩
  · have hleft : Set.LeftInvOn splitName (fun p : String × Option String => joinName p.1 p.2)
        {p | '(' ∉ p.1.toList ∧ p.2 ≠ some ""} := by
      intro p hp
      exact splitName_joinName_of_ne hp.1 hp.2
    exact hleft.injOn
  · by_cases hopens : '(' ∈ name.toList
    · obtain ⟨front, rest, hname, hfront⟩ := List.eq_append_cons_of_mem hopens
      rw [joinName_splitName_of_opens hfront hname, or_iff_right (not_not_intro hopens)]
    · rw [splitName_code hopens]
      exact iff_of_true rfl (.inl hopens)

/-- A variant in parentheses of its own comes back and makes a name of its own, and parentheses with
nothing between them get lost. -/
theorem name_parts_inverse_nested :
    '(' ∉ "a)".toList ∧ splitName (joinName "a)" (some "(b)")) = ("a)", some "(b)") ∧
    joinName "a)" (some "(b)") ≠ joinName "a)" none ∧
    joinName (splitName "us()").1 (splitName "us()").2 ≠ "us()" := by
  obtain ⟨split, distinct, again⟩ := name_parts_inverse
  have opens : '(' ∉ "a)".toList := by decide
  refine ⟨opens, split "a)" (some "(b)") opens, fun he => ?_, fun he => ?_⟩
  · have hparts := @distinct ("a)", some "(b)") ⟨opens, by decide⟩ ("a)", none)
      ⟨opens, by decide⟩ he
    cases hparts
  · exact absurd ((again "us()").1 he) (by decide)

end Keyboards.Xkb
