import Keyboards.Proofs.Text.Lines

/-! What a reader finds behind white space, and at the beginning of an indented line. -/

namespace Keyboards.Text

variable {n : Nat} {cs gap indent line name text tail back : List Char} {c : Char}

theorem takeWhile_blanks (h : gap.all isBlank = true)
    (visible : ∀ c, cs.head? = some c → isBlank c = false) :
    (gap ++ cs).takeWhile isBlank = gap := by
  have hnone : cs.takeWhile isBlank = [] := by
    cases cs with
    | nil => rfl
    | cons c rest => rw [List.takeWhile_cons_of_neg (by simp [visible c rfl])]
  rw [List.takeWhile_append_of_pos (List.all_eq_true.1 h), hnone, List.append_nil]

theorem dropWhile_blanks (h : gap.all isBlank = true)
    (visible : ∀ c, cs.head? = some c → isBlank c = false) :
    (gap ++ cs).dropWhile isBlank = cs := by
  rw [List.dropWhile_append_of_pos (List.all_eq_true.1 h), dropWhile_of_head visible]

/-- What is read behind at least `n` blanks: the text there, or else the last of more blanks. -/
inductive Behind (n : Nat) : List Char → List Char → Prop where
  | text {gap text tail : List Char} (blank : gap.all isBlank = true) (enough : n ≤ gap.length)
      (trimmed : Trimmed text) (nonempty : text ≠ []) (rest : tail.all isBlank = true) :
      Behind n (gap ++ (text ++ tail)) text
  | blank {gap : List Char} {c : Char} (blank : (gap ++ [c]).all isBlank = true)
      (enough : n ≤ gap.length) : Behind n (gap ++ [c]) [c]

theorem Trimmed.append_head {rest : List Char} (trimmed : Trimmed text) (nonempty : text ≠ []) :
    ∀ c, (text ++ rest).head? = some c → isBlank c = false := by
  obtain ⟨d, text, rfl⟩ := List.exists_cons_of_ne_nil nonempty
  exact fun c hc => trimmed.head c hc

theorem Trimmed.of_suffix {front : List Char} (h : Trimmed (front ++ cs))
    (visible : ∀ c, cs.head? = some c → isBlank c = false) : Trimmed cs :=
  ⟨visible, fun c hc => h.last c (by rw [List.getLast?_append, hc, Option.some_or])⟩

theorem behindBlanks?_of_behind (h : Behind n cs text) : behindBlanks? n cs = some text := by
  cases h with
  | @text gap text tail blank enough trimmed nonempty rest =>
    have visible : ∀ c, (text ++ tail).head? = some c → isBlank c = false :=
      trimmed.append_head nonempty
    rw [behindBlanks?, takeWhile_blanks blank visible, dropWhile_blanks blank visible,
      if_neg (by simp [nonempty]), if_pos enough, trimEnd_append _ rest, trimmed.trimEnd_eq]
  | @blank gap c blank enough =>
    have hdrop : (gap ++ [c]).dropWhile isBlank = [] :=
      List.dropWhile_eq_nil_iff.2 (List.all_eq_true.1 blank)
    have htake : (gap ++ [c]).takeWhile isBlank = gap ++ [c] :=
      List.takeWhile_eq_self_iff.2 (List.all_eq_true.1 blank)
    rw [behindBlanks?, hdrop, htake, if_pos List.isEmpty_nil,
      if_pos (by simpa using Nat.lt_succ_of_le enough), List.getLast?_concat, Option.map_some]

theorem trimmed_trimEnd (visible : ∀ c, cs.head? = some c → isBlank c = false) :
    Trimmed (trimEnd cs) := by
  have hchars : trimChars cs = trimEnd cs := by rw [trimChars, trimStart, dropWhile_of_head visible]
  exact hchars ▸ trimmed_trimChars cs

theorem trimEnd_ne_nil (visible : ∀ c, cs.head? = some c → isBlank c = false) (h : cs ≠ []) :
    trimEnd cs ≠ [] := by
  obtain ⟨c, rest, rfl⟩ := List.exists_cons_of_ne_nil h
  obtain ⟨blanks, hblanks, hcs⟩ := exists_trimEnd (c :: rest)
  intro hnil
  rw [hnil, List.nil_append] at hcs
  rw [← hcs] at hblanks
  exact absurd (List.all_eq_true.1 hblanks c (.head _)) (by simp [visible c rfl])

/-- What is read behind blanks is exactly what stands there. -/
theorem behindBlanks?_eq_some_iff : behindBlanks? n cs = some text ↔ Behind n cs text := by
  constructor
  · intro h
    have blank : (cs.takeWhile isBlank).all isBlank = true := List.all_takeWhile
    rw [behindBlanks?] at h
    split at h
    next hempty =>
      have hall : cs.takeWhile isBlank = cs := by
        have happend := List.takeWhile_append_dropWhile (p := isBlank) (l := cs)
        rwa [List.isEmpty_iff.1 hempty, List.append_nil] at happend
      rw [hall] at h blank
      split at h
      next hlength =>
        obtain ⟨c, hlast, rfl⟩ := Option.map_eq_some_iff.1 h
        obtain ⟨gap, rfl⟩ := List.getLast?_eq_some_iff.1 hlast
        exact .blank blank (Nat.le_of_lt_succ (by simpa using hlength))
      next => cases h
    next hnonempty =>
      split at h
      next enough =>
        have visible : ∀ c, (cs.dropWhile isBlank).head? = some c → isBlank c = false :=
          fun c => head_dropWhile_isBlank
        obtain ⟨tail, htail, happend⟩ := exists_trimEnd (cs.dropWhile isBlank)
        have hcs : cs = cs.takeWhile isBlank ++ (trimEnd (cs.dropWhile isBlank) ++ tail) := by
          rw [← happend, List.takeWhile_append_dropWhile]
        obtain rfl := Option.some.inj h
        have behind := Behind.text (n := n) blank enough (trimmed_trimEnd visible)
          (trimEnd_ne_nil visible (by simpa using hnonempty)) htail
        rwa [← hcs] at behind
      next => cases h
  · exact behindBlanks?_of_behind

/-- Something is read behind blanks if anything is there but the blanks that have to be. -/
theorem isSome_behindBlanks? : (behindBlanks? n cs).isSome = true ↔
    ∃ gap text, cs = gap ++ text ∧ gap.all isBlank = true ∧ n ≤ gap.length ∧ text ≠ [] := by
  rw [Option.isSome_iff_exists]
  constructor
  · rintro ⟨text, h⟩
    cases behindBlanks?_eq_some_iff.1 h with
    | text blank enough trimmed nonempty rest =>
      exact ⟨_, _, rfl, blank, enough, by simp [nonempty]⟩
    | blank blank enough =>
      rw [List.all_append, Bool.and_eq_true] at blank
      exact ⟨_, _, rfl, blank.1, enough, by simp⟩
  · rintro ⟨gap, text, rfl, blank, enough, nonempty⟩
    by_cases hall : text.all isBlank = true
    · -- the text is blank too, and its last character is what is read
      rcases List.eq_nil_or_concat text with rfl | ⟨init, c, rfl⟩
      · exact (nonempty rfl).elim
      · rw [List.concat_eq_append] at hall ⊢
        refine ⟨[c], behindBlanks?_of_behind ?_⟩
        rw [← List.append_assoc]
        exact .blank (by rw [List.append_assoc, List.all_append, blank, hall]; rfl)
          (by rw [List.length_append]; omega)
    · obtain ⟨front, tail, hfront, htail, htext⟩ := exists_trimChars text
      refine ⟨trimChars text, behindBlanks?_of_behind ?_⟩
      rw [htext, ← List.append_assoc gap front]
      refine (htext ▸ .text (by rw [List.all_append, blank, hfront]; rfl)
        (by rw [List.length_append]; omega) (trimmed_trimChars text) ?_ htail)
      intro hnil
      rw [hnil, List.nil_append] at htext
      rw [htext, List.all_append, hfront, htail] at hall
      exact hall rfl

theorem Behind.ne_nil (h : Behind n cs text) : text ≠ [] := by
  cases h with
  | text blank enough trimmed nonempty rest => exact nonempty
  | blank blank enough => exact List.cons_ne_nil _ _

/-- What is read has white space at its ends exactly if there was nothing but blanks. -/
theorem Behind.trimmed_iff (h : Behind n cs text) : Trimmed text ↔ ¬cs.all isBlank = true := by
  cases h with
  | text blank enough trimmed nonempty rest =>
    obtain ⟨c, text, rfl⟩ := List.exists_cons_of_ne_nil nonempty
    have visible := trimmed.head c rfl
    exact iff_of_true trimmed (by simp [visible])
  | @blank gap c blank enough =>
    refine iff_of_false (fun trimmed => ?_) (not_not_intro blank)
    rw [List.all_append, Bool.and_eq_true, List.all_cons, Bool.and_eq_true] at blank
    exact absurd (trimmed.head c rfl) (by simp [blank.2.1])

/-- It is one blank then. -/
theorem Behind.blank_of_not_trimmed (h : Behind n cs text) (hn : ¬Trimmed text) :
    ∃ c, isBlank c = true ∧ text = [c] := by
  cases h with
  | text blank enough trimmed nonempty rest => exact (hn trimmed).elim
  | @blank gap c blank enough => exact ⟨c, List.all_eq_true.1 blank c (by simp), rfl⟩

/-- Among blanks alone something is read if there are more of them than have to be. -/
theorem isSome_behindBlanks?_of_blank (h : cs.all isBlank = true) :
    (behindBlanks? n cs).isSome = true ↔ n < cs.length := by
  rw [isSome_behindBlanks?]
  constructor
  · rintro ⟨gap, text, rfl, -, enough, nonempty⟩
    have := List.length_pos_iff.2 nonempty
    rw [List.length_append]
    omega
  · intro enough
    refine ⟨cs.take n, cs.drop n, (List.take_append_drop n cs).symm, ?_, ?_, ?_⟩
    · exact List.all_eq_true.2 fun c hc => List.all_eq_true.1 h c (List.mem_of_mem_take hc)
    · rw [List.length_take]
      omega
    · rwa [Ne, List.drop_eq_nil_iff, not_le]

/-- A line begins with a word behind white space, and the word ends where `back` begins. -/
def Indents (line name back : List Char) : Prop :=
  ∃ indent, indent ≠ [] ∧ indent.all isBlank = true ∧ name ≠ [] ∧
    (∀ c ∈ name, isBlank c = false) ∧ (∀ c, back.head? = some c → isBlank c = true) ∧
    line = indent ++ (name ++ back)

/-- The parts of an indented line as readers find them. -/
theorem indents_iff : Indents line name back ↔
    (line.dropWhile isBlank).length ≠ line.length ∧
      (line.dropWhile isBlank).takeWhile (!isBlank ·) = name ∧ name ≠ [] ∧
      (line.dropWhile isBlank).dropWhile (!isBlank ·) = back := by
  constructor
  · rintro ⟨indent, indented, blank, named, solid, behind, rfl⟩
    have visible : ∀ c, (name ++ back).head? = some c → isBlank c = false :=
      (Trimmed.of_solid solid).append_head named
    have hfront : ∀ c ∈ name, (!isBlank c) = true := by simpa using solid
    have hback : back.takeWhile (!isBlank ·) = [] ∧ back.dropWhile (!isBlank ·) = back := by
      cases back with
      | nil => exact ⟨rfl, rfl⟩
      | cons c rest =>
        have hc : ¬(!isBlank c) = true := by simp [behind c rfl]
        exact ⟨List.takeWhile_cons_of_neg hc, List.dropWhile_cons_of_neg hc⟩
    rw [dropWhile_blanks blank visible]
    refine ⟨?_, ?_, named, ?_⟩
    · have := List.length_pos_iff.2 indented
      simp only [List.length_append]
      omega
    · rw [List.takeWhile_append_of_pos hfront, hback.1, List.append_nil]
    · rw [List.dropWhile_append_of_pos hfront, hback.2]
  · rintro ⟨indented, rfl, named, rfl⟩
    refine ⟨line.takeWhile isBlank, ?_, List.all_takeWhile, named, fun c hc => ?_,
      fun c hc => ?_, ?_⟩
    · intro hnil
      have happend := List.takeWhile_append_dropWhile (p := isBlank) (l := line)
      rw [hnil, List.nil_append] at happend
      exact indented (congrArg List.length happend)
    · simpa using List.mem_takeWhile_imp hc
    · have hhead := List.head?_dropWhile_not (!isBlank ·) (line.dropWhile isBlank)
      rw [hc] at hhead
      simpa using hhead
    · rw [List.takeWhile_append_dropWhile, List.takeWhile_append_dropWhile]

theorem Indents.unique {name' back' : List Char} (h : Indents line name back)
    (h' : Indents line name' back') : name = name' ∧ back = back' := by
  obtain ⟨-, rfl, -, rfl⟩ := indents_iff.1 h
  obtain ⟨-, rfl, -, rfl⟩ := indents_iff.1 h'
  exact ⟨rfl, rfl⟩

end Keyboards.Text
