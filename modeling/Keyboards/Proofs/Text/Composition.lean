import Keyboards.Proofs.Text.Decomposition

/-! Canonical composition done twice is canonical composition, and it respects separators. -/

namespace Keyboards.Text

variable {c d x starter : Char} {cs ds marks rest : List Char}

section Reordering

/-- No mark stands behind one of higher class. -/
def Arranged (cs : List Char) : Prop :=
  cs.IsChain fun c d => classOf d = 0 ∨ classOf c ≤ classOf d

theorem reorder_cons (c : Char) (cs : List Char) : reorder (c :: cs) = place c (reorder cs) := rfl

theorem reorder_append (cs ds : List Char) :
    reorder (cs ++ ds) = cs.foldr place (reorder ds) := List.foldr_append

theorem place_perm (c : Char) (cs : List Char) : (place c cs).Perm (c :: cs) := by
  induction cs with
  | nil => exact .refl _
  | cons d cs ih =>
    rw [place]
    split_ifs
    · exact (ih.cons d).trans (.swap c d cs)
    · exact .refl _

theorem reorder_perm (cs : List Char) : (reorder cs).Perm cs := by
  induction cs with
  | nil => exact .refl _
  | cons c cs ih => exact (place_perm c _).trans (ih.cons c)

theorem arranged_place (c : Char) (h : Arranged cs) : Arranged (place c cs) := by
  induction cs with
  | nil => exact .singleton c
  | cons d cs ih =>
    obtain ⟨hhead, htail⟩ := List.isChain_cons.1 h
    rw [place]
    split_ifs with hlt
    · refine List.isChain_cons.2 ⟨?_, ih htail⟩
      intro x hx
      cases cs with
      | nil =>
        cases hx
        exact .inr (by omega)
      | cons e cs =>
        rw [place] at hx
        split_ifs at hx
        · cases hx
          exact hhead x rfl
        · cases hx
          exact .inr (by omega)
    · refine List.isChain_cons.2 ⟨?_, h⟩
      intro x hx
      cases hx
      omega

theorem arranged_reorder (cs : List Char) : Arranged (reorder cs) := by
  induction cs with
  | nil => exact .nil
  | cons c cs ih => exact arranged_place c ih

theorem place_of_arranged (h : Arranged (c :: cs)) : place c cs = c :: cs := by
  cases cs with
  | nil => rfl
  | cons d cs =>
    have hcd := (List.isChain_cons.1 h).1 d rfl
    rw [place, if_neg (by omega)]

theorem reorder_of_arranged (h : Arranged cs) : reorder cs = cs := by
  induction cs with
  | nil => rfl
  | cons c cs ih =>
    rw [reorder_cons, ih (List.isChain_cons.1 h).2, place_of_arranged h]

/-- Marks of different classes may be put in place in either order. -/
theorem place_comm (hc : 0 < classOf c) (hcd : classOf c < classOf d) (cs : List Char) :
    place d (place c cs) = place c (place d cs) := by
  induction cs with
  | nil =>
    have hdc : ¬ classOf d < classOf c := by omega
    simp [place, hc, hcd, hdc]
  | cons e cs ih =>
    by_cases hec : 0 < classOf e ∧ classOf e < classOf c
    · have hed : 0 < classOf e ∧ classOf e < classOf d := by omega
      rw [place, if_pos hec, place, if_pos hed, ih, place, if_pos hed, place, if_pos hec]
    · have hdc : ¬ (0 < classOf d ∧ classOf d < classOf c) := by omega
      rw [place.eq_2 c e cs, if_neg hec, place.eq_2 d c, if_pos ⟨hc, hcd⟩]
      by_cases hed : 0 < classOf e ∧ classOf e < classOf d
      · rw [place.eq_2 d e cs, if_pos hed, place, if_neg hec]
      · rw [place.eq_2 d e cs, if_neg hed, place, if_neg hdc]

/-- A mark may be put in place before or after marks of lower class. -/
theorem foldr_place_comm (h : ∀ m ∈ marks, 0 < classOf m ∧ classOf m < classOf c)
    (cs : List Char) : marks.foldr place (place c cs) = place c (marks.foldr place cs) := by
  induction marks with
  | nil => rfl
  | cons m marks ih =>
    obtain ⟨hm, hmarks⟩ := List.forall_mem_cons.1 h
    rw [List.foldr_cons, List.foldr_cons, ih hmarks, place_comm hm.1 hm.2]

end Reordering

section Idempotence

theorem flatMap_decompose (h : ∀ x ∈ cs, decompose x = [x]) : cs.flatMap decompose = cs := by
  induction cs with
  | nil => rfl
  | cons c cs ih =>
    obtain ⟨hc, hcs⟩ := List.forall_mem_cons.1 h
    rw [List.flatMap_cons, hc, ih hcs]
    rfl

/-- Whether no mark that waits blocks the way from a character to the starting one. -/
def reachable (marks : List Char) (c : Char) : Bool :=
  match marks with
  | [] => true
  | last :: _ => classOf last < classOf c

theorem composeFrom_cons (starter : Char) (marks : List Char) (c : Char) (rest : List Char) :
    composeFrom starter marks (c :: rest) =
      match if reachable marks c then pair? starter c else none with
      | some joined => composeFrom joined marks rest
      | none =>
        if classOf c = 0 then starter :: (marks.reverse ++ composeFrom c [] rest)
        else composeFrom starter (c :: marks) rest := by
  cases marks <;> rfl

theorem compose_cons (c : Char) (cs : List Char) :
    compose (c :: cs) = if classOf c = 0 then composeFrom c [] cs else c :: compose cs := rfl

/-- The marks that wait behind a starting character, last first, with what is still to come. -/
structure Waiting (marks rest : List Char) : Prop where
  nonzero : ∀ m ∈ marks, classOf m ≠ 0
  falling : marks.Pairwise fun m l => classOf l ≤ classOf m
  arranged : Arranged rest
  next : ∀ m ∈ marks, ∀ c ∈ rest.head?, classOf c = 0 ∨ classOf m ≤ classOf c
  whole : ∀ x ∈ marks ++ rest, decompose x = [x]

theorem Waiting.start (h : Arranged (c :: rest)) (whole : ∀ x ∈ rest, decompose x = [x]) :
    Waiting [] rest :=
  ⟨by simp, .nil, (List.isChain_cons.1 h).2, by simp, by simpa using whole⟩

/-- What comes next joins the marks. -/
theorem Waiting.push (h : Waiting marks (c :: rest)) (hc : classOf c ≠ 0) :
    Waiting (c :: marks) rest := by
  obtain ⟨hhead, htail⟩ := List.isChain_cons.1 h.arranged
  have hbelow : ∀ m ∈ marks, classOf m ≤ classOf c := fun m hm =>
    (h.next m hm c rfl).resolve_left hc
  refine ⟨?_, List.pairwise_cons.2 ⟨hbelow, h.falling⟩, htail, ?_, ?_⟩
  · rintro m hm
    rcases List.mem_cons.1 hm with rfl | hm
    · exact hc
    · exact h.nonzero m hm
  · intro m hm d hd
    have hcd := hhead d hd
    rcases List.mem_cons.1 hm with rfl | hm
    · exact hcd
    · have hmc := hbelow m hm
      omega
  · intro x hx
    apply h.whole
    simp only [List.cons_append, List.mem_cons, List.mem_append] at hx ⊢
    rcases hx with rfl | hx | hx
    · exact .inr (.inl rfl)
    · exact .inl hx
    · exact .inr (.inr hx)

/-- What comes next is taken by the starting character, out of reach of which no mark is. -/
theorem Waiting.skip (h : Waiting marks (c :: rest))
    (hbelow : ∀ m ∈ marks, classOf m < classOf c) : Waiting marks rest := by
  obtain ⟨hhead, htail⟩ := List.isChain_cons.1 h.arranged
  refine ⟨h.nonzero, h.falling, htail, ?_, ?_⟩
  · intro m hm d hd
    have hmc := hbelow m hm
    have hcd := hhead d hd
    omega
  · intro x hx
    apply h.whole
    rcases List.mem_append.1 hx with hx | hx
    · exact List.mem_append_left _ hx
    · exact List.mem_append_right _ (List.mem_cons_of_mem _ hx)

/-- Only a character above all marks that wait is in reach of the starting one. -/
theorem Waiting.below (h : Waiting marks (c :: rest))
    (reach : ∀ last more, marks = last :: more → classOf last < classOf c) :
    ∀ m ∈ marks, classOf m < classOf c := by
  intro m hm
  cases marks with
  | nil => cases hm
  | cons last more =>
    have hlast := reach last more rfl
    rcases List.mem_cons.1 hm with rfl | hm
    · exact hlast
    · have hle := (List.pairwise_cons.1 h.falling).1 m hm
      omega

/-- Taken apart again, what composition makes of characters is these characters. -/
theorem reorder_composeFrom (h : Waiting marks rest) (starter : Char) :
    reorder ((composeFrom starter marks rest).flatMap decompose) =
      reorder (decompose starter ++ (marks.reverse ++ rest)) := by
  have hmarks : ∀ {marks rest}, Waiting marks rest →
      marks.reverse.flatMap decompose = marks.reverse := fun h =>
    flatMap_decompose fun x hx => h.whole x (List.mem_append_left _ (List.mem_reverse.1 hx))
  induction rest generalizing starter marks with
  | nil =>
    rw [composeFrom, List.flatMap_cons, hmarks h, List.append_nil]
  | cons c rest ih =>
    have hc : decompose c = [c] := h.whole c (by simp)
    -- Without a partner the character waits, or starts anew.
    have halone : reorder ((if classOf c = 0 then
        starter :: (marks.reverse ++ composeFrom c [] rest)
        else composeFrom starter (c :: marks) rest).flatMap decompose) =
        reorder (decompose starter ++ (marks.reverse ++ c :: rest)) := by
      by_cases hzero : classOf c = 0
      · have hw : Waiting [] rest := .start h.arranged fun x hx => h.whole x (by simp [hx])
        rw [if_pos hzero, List.flatMap_cons, List.flatMap_append, hmarks h, ← List.append_assoc,
          ← List.append_assoc, reorder_append, ih hw, reorder_append (_ ++ _), hc]
        rfl
      · rw [if_neg hzero, ih (h.push hzero), List.reverse_cons, List.append_assoc]
        rfl
    rw [composeFrom_cons]
    cases hp : if reachable marks c then pair? starter c else none with
    | none => exact halone
    | some joined =>
      split_ifs at hp with hreach
      have hbelow := h.below (by
        rintro last more rfl
        simpa [reachable] using hreach)
      have hswap : ∀ m ∈ marks.reverse, 0 < classOf m ∧ classOf m < classOf c := by
        intro m hm
        have hm := List.mem_reverse.1 hm
        exact ⟨Nat.pos_of_ne_zero (h.nonzero m hm), hbelow m hm⟩
      rw [ih (h.skip hbelow), decompose_of_pair? hp, List.append_assoc, reorder_append,
        reorder_append (decompose starter), List.singleton_append, reorder_cons,
        reorder_append marks.reverse, reorder_append marks.reverse, reorder_cons,
        foldr_place_comm hswap]

theorem reorder_compose (h : Arranged cs) (whole : ∀ x ∈ cs, decompose x = [x]) :
    reorder ((compose cs).flatMap decompose) = reorder cs := by
  induction cs with
  | nil => rfl
  | cons c cs ih =>
    obtain ⟨hc, hcs⟩ := List.forall_mem_cons.1 whole
    rw [compose_cons]
    split_ifs
    · rw [reorder_composeFrom (.start h hcs), hc]
      rfl
    · rw [List.flatMap_cons, hc, List.singleton_append, reorder_cons,
        ih (List.isChain_cons.1 h).2 hcs, reorder_cons]

theorem nfdChars_nfcChars (cs : List Char) : nfdChars (nfcChars cs) = nfdChars cs := by
  have harranged : Arranged (nfdChars cs) := arranged_reorder _
  have hwhole : ∀ x ∈ nfdChars cs, decompose x = [x] := by
    intro x hx
    obtain ⟨c, -, hx⟩ := List.mem_flatMap.1 ((reorder_perm _).mem_iff.1 hx)
    exact decompose_of_mem hx
  rw [nfdChars, nfcChars, reorder_compose harranged hwhole, reorder_of_arranged harranged]

theorem nfcChars_nfcChars (cs : List Char) : nfcChars (nfcChars cs) = nfcChars cs := by
  rw [nfcChars, nfdChars_nfcChars, ← nfcChars]

/-- A text in canonical composition stays as it is. -/
theorem nfc_nfc (s : String) : nfc (nfc s) = nfc s := by
  rw [nfc, nfc, String.toList_ofList, nfcChars_nfcChars]

end Idempotence

section Separators

/-- The characters that join layout and locale. -/
def IsSeparator (c : Char) : Prop := c = '-' ∨ c = '|'

theorem separators_alone : ∀ p ∈ listing Unicode.composites, p.2.1 ≠ 0x2D ∧ p.2.1 ≠ 0x7C := by
  decide +kernel

theorem IsSeparator.decompose (h : IsSeparator c) : decompose c = [c] := by
  rcases h with rfl | rfl <;> rfl

theorem IsSeparator.classOf (h : IsSeparator c) : classOf c = 0 := by
  rcases h with rfl | rfl <;> rfl

/-- A separator is not joined to what stands before it. -/
theorem IsSeparator.pair?_right (h : IsSeparator c) (d : Char) : pair? d c = none := by
  rcases h with rfl | rfl <;> rfl

/-- A separator is not joined to what follows it. -/
theorem IsSeparator.pair?_left (h : IsSeparator c) (d : Char) : pair? c d = none := by
  have hn : c.toNat = 0x2D ∨ c.toNat = 0x7C := by
    rcases h with rfl | rfl
    · exact .inl rfl
    · exact .inr rfl
  have hsyllable : joinSyllable? c.toNat d.toNat = none := by
    rw [joinSyllable?, if_neg (by omega), if_neg (by omega)]
  have hcode : runCode? c.toNat d.toNat Unicode.composites = none := by
    rw [Option.eq_none_iff_forall_ne_some]
    intro n hs
    have halone := separators_alone _ (runCode?_mem hs)
    simp only at halone
    omega
  rw [pair?, hsyllable, hcode]
  split_ifs <;> rfl

theorem place_append_separator (h : IsSeparator d) (c : Char) (cs ds : List Char) :
    place c (cs ++ d :: ds) = place c cs ++ d :: ds := by
  induction cs with
  | nil => simp [place, h.classOf]
  | cons e cs ih =>
    rw [List.cons_append, place, place]
    split_ifs
    · rw [ih]
      rfl
    · rfl

theorem reorder_append_separator (h : IsSeparator d) (cs ds : List Char) :
    reorder (cs ++ d :: ds) = reorder cs ++ d :: reorder ds := by
  induction cs with
  | nil =>
    rw [List.nil_append, reorder_cons]
    cases hr : reorder ds with
    | nil => rfl
    | cons e es =>
      rw [place, if_neg (by rw [h.classOf]; omega)]
      rfl
  | cons c cs ih => rw [List.cons_append, reorder_cons, ih, place_append_separator h, reorder_cons]

/-- What follows a separator is composed by itself. -/
theorem composeFrom_separator (h : IsSeparator d) (marks rest : List Char) :
    composeFrom d marks rest = d :: (marks.reverse ++ compose rest) := by
  induction rest generalizing marks with
  | nil => simp [composeFrom, compose]
  | cons c rest ih =>
    rw [composeFrom_cons, h.pair?_left, ite_self, compose_cons]
    simp only
    split_ifs
    · rfl
    · rw [ih, List.reverse_cons, List.append_assoc]
      rfl

theorem composeFrom_append_separator (h : IsSeparator d) (starter : Char)
    (marks cs ds : List Char) :
    composeFrom starter marks (cs ++ d :: ds) =
      composeFrom starter marks cs ++ d :: compose ds := by
  induction cs generalizing starter marks with
  | nil =>
    rw [List.nil_append, composeFrom_cons, h.pair?_right, ite_self]
    simp only
    rw [if_pos h.classOf, composeFrom_separator h]
    simp [composeFrom]
  | cons c cs ih =>
    rw [List.cons_append, composeFrom_cons, composeFrom_cons]
    simp only [ih]
    split
    · rfl
    · split_ifs
      · simp
      · rfl

theorem compose_append_separator (h : IsSeparator d) (cs ds : List Char) :
    compose (cs ++ d :: ds) = compose cs ++ d :: compose ds := by
  induction cs with
  | nil =>
    rw [List.nil_append, compose_cons, if_pos h.classOf, composeFrom_separator h]
    rfl
  | cons c cs ih =>
    rw [List.cons_append, compose_cons, compose_cons, composeFrom_append_separator h, ih]
    split_ifs <;> rfl

theorem nfcChars_append_separator (h : IsSeparator d) (cs ds : List Char) :
    nfcChars (cs ++ d :: ds) = nfcChars cs ++ d :: nfcChars ds := by
  rw [nfcChars, nfdChars, List.flatMap_append, List.flatMap_cons, h.decompose,
    List.singleton_append, reorder_append_separator h, compose_append_separator h]
  rfl

theorem nfc_append_dash (a b : String) : nfc (a ++ "-" ++ b) = nfc a ++ "-" ++ nfc b := by
  have h := nfcChars_append_separator (.inl rfl) a.toList b.toList
  simp [nfc, String.toList_append, h, ← String.toList_inj]

theorem nfc_append_bar (a b : String) : nfc (a ++ "|" ++ b) = nfc a ++ "|" ++ nfc b := by
  have h := nfcChars_append_separator (.inr rfl) a.toList b.toList
  simp [nfc, String.toList_append, h, ← String.toList_inj]

end Separators

theorem expand_ne_nil (depth n : Nat) : expand depth n ≠ [] := by
  induction depth generalizing n with
  | zero => simp [expand]
  | succ depth ih =>
    rw [expand_succ]
    split
    · simp [ih]
    · simp

theorem decompose_ne_nil (c : Char) : decompose c ≠ [] := by
  cases hc : isSyllable c.toNat with
  | false => simp [decompose_eq_expand hc, expand_ne_nil]
  | true => simp [decompose_syllable hc, splitSyllable]

theorem composeFrom_ne_nil (starter : Char) (marks rest : List Char) :
    composeFrom starter marks rest ≠ [] := by
  induction rest generalizing starter marks with
  | nil => simp [composeFrom]
  | cons c rest ih =>
    rw [composeFrom_cons]
    split
    · exact ih _ _
    · split_ifs
      · simp
      · exact ih _ _

theorem compose_eq_nil : compose cs = [] ↔ cs = [] := by
  constructor
  · intro h
    cases cs with
    | nil => rfl
    | cons c cs =>
      rw [compose_cons] at h
      split_ifs at h
      exact (composeFrom_ne_nil _ _ _ h).elim
  · rintro rfl
    rfl

/-- Only the empty text is composed to the empty text. -/
theorem nfc_eq_empty {s : String} : nfc s = "" ↔ s = "" := by
  rw [nfc, String.ofList_eq_empty_iff, nfcChars, compose_eq_nil, nfdChars]
  constructor
  · intro h
    have hflat : s.toList.flatMap decompose = [] := by
      have hperm := reorder_perm (s.toList.flatMap decompose)
      rw [h] at hperm
      exact hperm.nil_eq.symm
    cases hs : s.toList with
    | nil => exact String.toList_eq_nil_iff.1 hs
    | cons c cs =>
      rw [hs, List.flatMap_cons, List.append_eq_nil_iff] at hflat
      exact (decompose_ne_nil c hflat.1).elim
  · rintro rfl
    rfl

end Keyboards.Text
