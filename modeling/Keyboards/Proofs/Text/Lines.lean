import Keyboards.Text.Basic
import Mathlib.Data.List.TakeWhile

/-! Texts cut at a character or into lines, and texts without white space at their ends. -/

namespace Keyboards.Text

variable {sep c : Char} {cs front rest line piece blanks : List Char}

theorem fields_eq_splitOn (sep : Char) (cs : List Char) : fields sep cs = cs.splitOn sep := by
  induction cs with
  | nil => rfl
  | cons c rest ih =>
    rw [fields, ih, List.splitOn_cons_eq_if_modifyHead]
    cases hf : rest.splitOn sep with
    | nil => exact (List.splitOn_ne_nil _ _ hf).elim
    | cons piece pieces => simp

theorem fields_ne_nil (sep : Char) (cs : List Char) : fields sep cs ≠ [] := by
  rw [fields_eq_splitOn]
  exact List.splitOn_ne_nil _ _

/-- The pieces joined again are the text. -/
theorem intercalate_fields (sep : Char) (cs : List Char) :
    [sep].intercalate (fields sep cs) = cs := by
  rw [fields_eq_splitOn, List.intercalate_splitOn]

theorem fields_of_not_mem (h : sep ∉ cs) : fields sep cs = [cs] := by
  rw [fields_eq_splitOn, List.splitOn_eq_singleton h]

theorem fields_append (h : sep ∉ front) :
    fields sep (front ++ sep :: rest) = front :: fields sep rest := by
  rw [fields_eq_splitOn, fields_eq_splitOn, List.splitOn_append_cons_self_of_not_mem h]

theorem mem_fields (h : piece ∈ fields sep cs) : sep ∉ piece ∧ piece ⊆ cs := by
  induction cs generalizing piece with
  | nil =>
    obtain rfl := List.mem_singleton.1 h
    simp
  | cons c rest ih =>
    rw [fields] at h
    by_cases hc : c = sep
    · rw [if_pos hc] at h
      rcases List.mem_cons.1 h with rfl | h
      · simp
      · exact ⟨(ih h).1, List.subset_cons_of_subset c (ih h).2⟩
    · rw [if_neg hc] at h
      cases hf : fields sep rest with
      | nil =>
        rw [hf] at h
        obtain rfl := List.mem_singleton.1 h
        simp [Ne.symm hc]
      | cons first pieces =>
        rw [hf] at h ih
        rcases List.mem_cons.1 h with rfl | h
        · obtain ⟨hsep, hsub⟩ := ih (.head _)
          exact ⟨by simp [Ne.symm hc, hsep], List.cons_subset_cons c hsub⟩
        · obtain ⟨hsep, hsub⟩ := ih (.tail _ h)
          exact ⟨hsep, List.subset_cons_of_subset c hsub⟩

theorem cut?_append (h : sep ∉ front) : cut? sep (front ++ sep :: rest) = some (front, rest) := by
  induction front with
  | nil => simp [cut?]
  | cons c front ih =>
    rw [List.mem_cons, not_or] at h
    rw [List.cons_append, cut?, if_neg (Ne.symm h.1), ih h.2]
    rfl

theorem cut?_eq_none (h : sep ∉ cs) : cut? sep cs = none := by
  induction cs with
  | nil => rfl
  | cons c rest ih =>
    rw [List.mem_cons, not_or] at h
    rw [cut?, if_neg (Ne.symm h.1), ih h.2]
    rfl

theorem subset_of_cut? (h : cut? sep cs = some (front, rest)) : rest ⊆ cs := by
  induction cs generalizing front with
  | nil => cases h
  | cons c tail ih =>
    rw [cut?] at h
    split at h
    · obtain rfl := congrArg Prod.snd (Option.some.inj h)
      exact List.subset_cons_self ..
    · obtain ⟨p, hp, he⟩ := Option.map_eq_some_iff.1 h
      obtain ⟨-, rfl⟩ := Prod.mk.inj he
      exact List.subset_cons_of_subset c (ih hp)

theorem dropReturn_subset (line : List Char) : dropReturn line ⊆ line := by
  rw [dropReturn]
  split
  · exact List.dropLast_subset line
  · exact List.Subset.refl line

/-- A line feed ends a line. -/
theorem lines_append (h : '\n' ∉ line) :
    lines (line ++ '\n' :: rest) = dropReturn line :: lines rest := by
  rw [lines, lines, fields_append h, List.reverse_cons]
  cases hf : (fields '\n' rest).reverse with
  | nil => exact (fields_ne_nil _ _ (List.reverse_eq_nil_iff.1 hf)).elim
  | cons last ended => simp

theorem mem_lines (h : line ∈ lines cs) : '\n' ∉ line := by
  have hfields : ∀ piece ∈ (fields '\n' cs).reverse, '\n' ∉ piece := fun piece hp =>
    (mem_fields (List.mem_reverse.1 hp)).1
  rw [lines] at h
  cases hf : (fields '\n' cs).reverse with
  | nil => simp [hf] at h
  | cons last ended =>
    rw [hf] at h hfields
    simp only [List.mem_append, List.mem_reverse, List.mem_map] at h
    rcases h with ⟨piece, hp, rfl⟩ | h
    · exact fun hn => hfields piece (.tail _ hp) (dropReturn_subset piece hn)
    · split at h
      · cases h
      · obtain rfl := List.mem_singleton.1 h
        exact hfields line (.head _)

/-- A text without white space at its ends. -/
structure Trimmed (cs : List Char) : Prop where
  head : ∀ c, cs.head? = some c → isBlank c = false
  last : ∀ c, cs.getLast? = some c → isBlank c = false

theorem Trimmed.of_solid (h : ∀ c ∈ cs, isBlank c = false) : Trimmed cs :=
  ⟨fun c hc => h c (List.mem_of_head? hc), fun c hc => h c (List.mem_of_getLast? hc)⟩

theorem head_dropWhile_isBlank (h : (cs.dropWhile isBlank).head? = some c) :
    isBlank c = false := by
  have hhead := List.head?_dropWhile_not isBlank cs
  rw [h] at hhead
  simpa using hhead

theorem trimmed_trimChars (cs : List Char) : Trimmed (trimChars cs) := by
  constructor
  · intro c hc
    have hprefix : trimChars cs <+: trimStart cs :=
      List.reverse_suffix.1 (by rw [trimChars, trimEnd, List.reverse_reverse]
                                exact List.dropWhile_suffix _)
    obtain ⟨tail, htail⟩ := hprefix
    have hstart : (cs.dropWhile isBlank).head? = some c := by
      rw [← trimStart, ← htail, List.head?_append, hc]
      rfl
    exact head_dropWhile_isBlank hstart
  · intro c hc
    rw [trimChars, trimEnd, List.getLast?_reverse] at hc
    exact head_dropWhile_isBlank hc

theorem trimChars_subset (cs : List Char) : trimChars cs ⊆ cs := by
  intro c hc
  rw [trimChars, trimEnd, List.mem_reverse] at hc
  have hstart := List.mem_reverse.1 ((List.dropWhile_sublist _).subset hc)
  exact (List.dropWhile_sublist _).subset hstart

theorem dropWhile_of_head (h : ∀ c, cs.head? = some c → isBlank c = false) :
    cs.dropWhile isBlank = cs := by
  cases cs with
  | nil => rfl
  | cons c rest => rw [List.dropWhile_cons_of_neg (by simp [h c rfl])]

theorem Trimmed.trimEnd_eq (h : Trimmed cs) : trimEnd cs = cs := by
  rw [trimEnd, dropWhile_of_head, List.reverse_reverse]
  intro c hc
  rw [List.head?_reverse] at hc
  exact h.last c hc

/-- White space in front of a text does not count. -/
theorem Trimmed.trimChars_append (h : Trimmed cs) (blanks : List Char)
    (hblanks : blanks.all isBlank = true) : trimChars (blanks ++ cs) = cs := by
  rw [trimChars, trimStart, List.dropWhile_append_of_pos (List.all_eq_true.1 hblanks),
    dropWhile_of_head h.head, h.trimEnd_eq]

theorem Trimmed.trimChars_eq (h : Trimmed cs) : trimChars cs = cs :=
  h.trimChars_append [] rfl

/-- What begins and ends in visible text has no white space at its ends. -/
theorem Trimmed.around {back : List Char} (hfront : Trimmed front) (begins : front ≠ [])
    (hback : Trimmed back) (ends : back ≠ []) (middle : List Char) :
    Trimmed (front ++ (middle ++ back)) := by
  constructor
  · intro c hc
    rw [List.head?_append, Option.or_eq_some_iff] at hc
    rcases hc with hc | ⟨hnone, -⟩
    · exact hfront.head c hc
    · exact (begins (List.head?_eq_none_iff.1 hnone)).elim
  · intro c hc
    rw [← List.append_assoc, List.getLast?_append, Option.or_eq_some_iff] at hc
    rcases hc with hc | ⟨hnone, -⟩
    · exact hback.last c hc
    · exact (ends (List.getLast?_eq_none_iff.1 hnone)).elim

/-- A line that ends in visible text is as it was. -/
theorem Trimmed.dropReturn_append (h : Trimmed cs) (hfront : front.getLast? ≠ some '\r') :
    dropReturn (front ++ cs) = front ++ cs := by
  rw [dropReturn]
  split
  next hlast =>
    rw [List.getLast?_append, Option.or_eq_some_iff] at hlast
    rcases hlast with hcs | ⟨-, hf⟩
    · exact absurd (h.last _ hcs) (by decide)
    · exact absurd hf hfront
  next => rfl

/-- The first piece goes up to the first separator. -/
theorem head?_fields (sep : Char) (cs : List Char) :
    (fields sep cs).head? = some (cs.takeWhile (· ≠ sep)) := by
  induction cs with
  | nil => rfl
  | cons c rest ih =>
    rw [fields]
    by_cases hc : c = sep
    · simp [hc]
    · rw [if_neg hc]
      cases hf : fields sep rest with
      | nil => simp [hf] at ih
      | cons piece pieces =>
        rw [hf, List.head?_cons, Option.some.injEq] at ih
        simp [ih, hc]

/-- White space at the end does not count. -/
theorem trimEnd_append (cs : List Char) (h : blanks.all isBlank = true) :
    trimEnd (cs ++ blanks) = trimEnd cs := by
  rw [trimEnd, List.reverse_append, List.dropWhile_append_of_pos, trimEnd]
  simpa using h

theorem trimChars_append_blanks (cs : List Char) (h : blanks.all isBlank = true) :
    trimChars (cs ++ blanks) = trimChars cs := by
  rw [trimChars, trimChars, trimStart, trimStart, List.dropWhile_append]
  split
  next hall =>
    rw [List.isEmpty_iff.1 hall, List.dropWhile_eq_nil_iff.2 (by simpa using h)]
  next => exact trimEnd_append _ h

theorem exists_trimEnd (cs : List Char) :
    ∃ blanks : List Char, blanks.all isBlank = true ∧ cs = trimEnd cs ++ blanks := by
  refine ⟨(cs.reverse.takeWhile isBlank).reverse, ?_, ?_⟩
  · simp only [List.all_reverse]
    exact List.all_takeWhile
  · rw [trimEnd, ← List.reverse_append, List.takeWhile_append_dropWhile, List.reverse_reverse]

theorem exists_trimStart (cs : List Char) :
    ∃ blanks : List Char, blanks.all isBlank = true ∧ cs = blanks ++ trimStart cs :=
  ⟨cs.takeWhile isBlank, List.all_takeWhile, List.takeWhile_append_dropWhile.symm⟩

theorem trimChars_blanks_append (cs : List Char) (h : blanks.all isBlank = true) :
    trimChars (blanks ++ cs) = trimChars cs := by
  rw [trimChars, trimStart, List.dropWhile_append_of_pos (List.all_eq_true.1 h)]
  rfl

/-- White space around a text does not count. -/
theorem exists_trimChars (cs : List Char) : ∃ front back : List Char,
    front.all isBlank = true ∧ back.all isBlank = true ∧ cs = front ++ (trimChars cs ++ back) := by
  obtain ⟨front, hfront, hstart⟩ := exists_trimStart cs
  obtain ⟨back, hback, hend⟩ := exists_trimEnd (trimStart cs)
  exact ⟨front, back, hfront, hback, by rw [trimChars, ← hend, ← hstart]⟩

theorem ne_of_mem_blanks (visible : isBlank sep = false) (h : blanks.all isBlank = true) :
    ∀ c ∈ blanks, decide (c ≠ sep) = true := by
  intro c hc
  rw [decide_eq_true_eq]
  rintro rfl
  exact absurd (List.all_eq_true.1 h c hc) (by simp [visible])

/-- White space around a text does not matter to what stands up to a visible separator. -/
theorem trimChars_takeWhile_trimChars (visible : isBlank sep = false) (cs : List Char) :
    trimChars ((trimChars cs).takeWhile (· ≠ sep)) = trimChars (cs.takeWhile (· ≠ sep)) := by
  obtain ⟨front, back, hfront, hback, hcs⟩ := exists_trimChars cs
  suffices h : ∀ t : List Char, trimChars (t.takeWhile (· ≠ sep)) =
      trimChars ((front ++ (t ++ back)).takeWhile (· ≠ sep)) by
    rw [h (trimChars cs), ← hcs]
  intro t
  rw [List.takeWhile_append_of_pos (ne_of_mem_blanks visible hfront),
    trimChars_blanks_append _ hfront, List.takeWhile_append]
  split
  next hall =>
    rw [List.takeWhile_eq_self_iff.2 (ne_of_mem_blanks visible hback),
      trimChars_append_blanks _ hback, (List.takeWhile_prefix _).eq_of_length hall]
  next => rfl

theorem dropReturn_return (line : List Char) : dropReturn (line ++ ['\r']) = line := by
  simp [dropReturn]

theorem dropReturn_of_ne (h : line.getLast? ≠ some '\r') : dropReturn line = line := by
  rw [dropReturn]
  split
  next hlast => exact absurd hlast h
  next => rfl

/-- What a line loses with its carriage return is white space at its end. -/
theorem trimChars_dropReturn (line : List Char) : trimChars (dropReturn line) = trimChars line := by
  by_cases hline : line.getLast? = some '\r'
  · obtain ⟨init, rfl⟩ := List.getLast?_eq_some_iff.1 hline
    rw [dropReturn_return, trimChars_append_blanks _ (by decide)]
  · rw [dropReturn_of_ne hline]

theorem dropReturn_append (hfront : front.getLast? ≠ some '\r') (cs : List Char) :
    dropReturn (front ++ cs) = front ++ dropReturn cs := by
  by_cases hcs : cs.getLast? = some '\r'
  · obtain ⟨init, rfl⟩ := List.getLast?_eq_some_iff.1 hcs
    rw [← List.append_assoc, dropReturn_return, dropReturn_return]
  · rw [dropReturn_of_ne hcs, dropReturn_of_ne]
    rw [List.getLast?_append]
    cases hlast : cs.getLast? with
    | none => exact hfront
    | some c => simpa [hlast] using hcs

end Keyboards.Text
