import Mathlib.Tactic.Common
import Keyboards.Toml.Lexical
import Keyboards.Toml.Writer

/-! What is written between quotes is read back as it was. -/

namespace Keyboards.Toml

variable {multiline escapes : Bool} {q c e x : Char} {limit run n : Nat}
  {cs body rest written : List Char}

section Characters

theorem isPlain_iff : isPlain c = true ↔ c = '\t' ∨ isControl c = false := by
  simp only [isPlain, isControl, Bool.or_eq_true, beq_iff_eq, Bool.and_eq_true, decide_eq_true_eq,
    Bool.or_eq_false_iff, decide_eq_false_iff_not]
  refine or_congr_right ?_
  constructor <;> rintro ⟨hlow, hhigh⟩ <;> exact ⟨by omega, hhigh⟩

theorem isControl_lt (h : isControl c = true) : c.toNat < 128 := by
  simp only [isControl, Bool.or_eq_true, decide_eq_true_eq] at h
  omega

theorem hexNumber?_escapeCode : ∀ n < 128, Text.hexNumber?
    ['0', '0', Text.upperHexDigit (n / 16), Text.upperHexDigit (n % 16)] = some n := by
  decide

theorem hexDigit_plain : ∀ n < 16, Text.upperHexDigit n ≠ '"' ∧ Text.upperHexDigit n ≠ '\\' := by
  decide

theorem scalar?_toNat (c : Char) : scalar? c.toNat = some c := by
  have hvalid : c.toNat.isValidChar := c.valid
  rw [scalar?, if_pos hvalid, Char.ofNat_toNat]

theorem simpleEscape?_visible (h : simpleEscape? e = some x) :
    e ≠ 'u' ∧ e ≠ 'U' ∧ isBlank e = false ∧ e ≠ '\n' ∧ e ≠ '\r' := by
  rw [simpleEscape?.eq_def] at h
  split at h
  all_goals first | decide | cases h

end Characters

section Escapes

/-- How the written form of a text begins, character by character. -/
inductive Piece (multiline : Bool) (run : Nat) (c : Char) (cs : List Char) : List Char → Prop where
  | quote (lines : multiline = true) (few : run < 2) (is : c = '"') :
      Piece multiline run c cs ('"' :: escape multiline (run + 1) cs)
  | lineFeed (lines : multiline = true) (is : c = '\n') :
      Piece multiline run c cs ('\n' :: escape multiline 0 cs)
  | short (e : Char) (stands : simpleEscape? e = some c) :
      Piece multiline run c cs ('\\' :: e :: escape multiline 0 cs)
  | code (control : isControl c = true) :
      Piece multiline run c cs (escapeCode c ++ escape multiline 0 cs)
  | plain (plain : isPlain c = true) (backslash : c ≠ '\\') (quote : c ≠ '"') :
      Piece multiline run c cs (c :: escape multiline 0 cs)

theorem piece_escape (multiline : Bool) (run : Nat) (c : Char) (cs : List Char) :
    Piece multiline run c cs (escape multiline run (c :: cs)) := by
  rw [escape.eq_def]
  dsimp only
  split
  · split_ifs with h
    · rw [Bool.and_eq_true, decide_eq_true_eq] at h
      exact .quote h.1 h.2 rfl
    · exact .short '"' rfl
  · exact .short '\\' rfl
  · exact .short 'b' rfl
  · exact .short 't' rfl
  · exact .short 'f' rfl
  · exact .short 'r' rfl
  · split_ifs with h
    · exact .lineFeed h rfl
    · exact .short 'n' rfl
  · rename_i hquote hbackslash _ _ _ _ _
    split_ifs with h
    · exact .code h
    · exact .plain (isPlain_iff.2 (.inr (by simpa using h))) hbackslash hquote

theorem unescape?_plain (hplain : isPlain c = true) (hc : c ≠ '\\') :
    unescape? multiline false (c :: cs) = (unescape? multiline false cs).map (c :: ·) := by
  rw [unescape?.eq_6]
  · simp [hplain, hc]
  · rintro _ rfl
    cases hplain
  · exact fun _ _ _ _ _ he => (hc he).elim
  · exact fun _ _ _ _ _ _ _ _ _ he => (hc he).elim
  · exact fun _ _ he => (hc he).elim

theorem unescape?_lineFeed :
    unescape? true false ('\n' :: cs) = (unescape? true false cs).map ('\n' :: ·) := by
  rw [unescape?.eq_6] <;> simp

theorem continues_of_visible (hblank : isBlank e = false) (hfeed : e ≠ '\n') (hreturn : e ≠ '\r') :
    continues (e :: cs) = false := by
  have hskip : skipBlanks (e :: cs) = e :: cs := by
    rw [skipBlanks, List.dropWhile_cons, hblank]
    rfl
  rw [continues, hskip]
  split
  · rename_i he
    exact (hfeed (List.cons.inj he).1).elim
  · rename_i he
    exact (hreturn (List.cons.inj he).1).elim
  · rfl

theorem unescape?_short (h : simpleEscape? e = some x) :
    unescape? multiline false ('\\' :: e :: cs) = (unescape? multiline false cs).map (x :: ·) := by
  obtain ⟨hu, hU, hblank, hfeed, hreturn⟩ := simpleEscape?_visible h
  rw [unescape?.eq_5]
  · rw [continues_of_visible hblank hfeed hreturn, h]
    simp
  · exact fun _ _ _ _ _ he => (hu he).elim
  · exact fun _ _ _ _ _ _ _ _ _ he => (hU he).elim

theorem unescape?_code (h : isControl c = true) :
    unescape? multiline false (escapeCode c ++ cs) =
      (unescape? multiline false cs).map (c :: ·) := by
  have hcode : Text.hexNumber? ['0', '0', Text.upperHexDigit (c.toNat / 16),
      Text.upperHexDigit (c.toNat % 16)] = some c.toNat := hexNumber?_escapeCode _ (isControl_lt h)
  simp only [escapeCode, List.cons_append, List.nil_append, unescape?.eq_3, hcode]
  simp [scalar?_toNat]

/-- Escaping is undone. -/
theorem unescape?_escape (multiline : Bool) (run : Nat) (cs : List Char) :
    unescape? multiline false (escape multiline run cs) = some cs := by
  induction cs generalizing run with
  | nil => rw [escape, unescape?]
  | cons c cs ih =>
    have hpiece := piece_escape multiline run c cs
    generalize escape multiline run (c :: cs) = written at hpiece
    cases hpiece with
    | quote _ _ is =>
      rw [unescape?_plain (by decide) (by decide), ih, is]
      rfl
    | lineFeed lines is =>
      subst lines is
      rw [unescape?_lineFeed, ih]
      rfl
    | short e stands =>
      rw [unescape?_short stands, ih]
      rfl
    | code control =>
      rw [unescape?_code control, ih]
      rfl
    | plain plain backslash =>
      rw [unescape?_plain plain backslash, ih]
      rfl

end Escapes

section Bodies

/-- Between quotes there are at most `limit` quotes in a row, those before counted in `run`. Where
escapes count, a character behind a backslash is no quote. -/
inductive Sealed (q : Char) (escapes : Bool) (limit : Nat) : Nat → List Char → Prop where
  | nil {run : Nat} : Sealed q escapes limit run []
  | quote {run : Nat} {body : List Char} (few : run < limit)
      (later : Sealed q escapes limit (run + 1) body) : Sealed q escapes limit run (q :: body)
  | escaped {run : Nat} {body : List Char} (c : Char) (counts : escapes = true)
      (later : Sealed q escapes limit 0 body) : Sealed q escapes limit run ('\\' :: c :: body)
  | other {run : Nat} {body : List Char} {c : Char} (quote : c ≠ q)
      (backslash : escapes = true → c ≠ '\\') (later : Sealed q escapes limit 0 body) :
      Sealed q escapes limit run (c :: body)

theorem sealed_escape (multiline : Bool) (run : Nat) (cs : List Char) :
    Sealed '"' true (if multiline then 2 else 0) run (escape multiline run cs) := by
  induction cs generalizing run with
  | nil =>
    rw [escape]
    exact .nil
  | cons c cs ih =>
    have hpiece := piece_escape multiline run c cs
    generalize escape multiline run (c :: cs) = written at hpiece ⊢
    cases hpiece with
    | quote lines few =>
      subst lines
      exact .quote few (ih (run + 1))
    | lineFeed => exact .other (by decide) (by decide) (ih 0)
    | short e => exact .escaped e rfl (ih 0)
    | code control =>
      have hlow := hexDigit_plain (c.toNat / 16) (by have := isControl_lt control; omega)
      have hhigh := hexDigit_plain (c.toNat % 16) (Nat.mod_lt _ (by omega))
      exact .escaped 'u' rfl (.other (by decide) (by decide) (.other (by decide) (by decide)
        (.other hlow.1 (fun _ => hlow.2) (.other hhigh.1 (fun _ => hhigh.2) (ih 0)))))
    | plain _ backslash quote => exact .other quote (fun _ => backslash) (ih 0)

/-- On one line the first quote ends a string. -/
theorem basicBody_sealed (h : Sealed '"' true 0 run body) :
    basicBody (body ++ '"' :: rest) = some (body, rest) := by
  induction h with
  | nil => rfl
  | quote few => cases few
  | escaped c counts later ih =>
    rw [List.cons_append, List.cons_append, basicBody, ih]
    rfl
  | other quote backslash later ih =>
    rw [List.cons_append, basicBody.eq_4 _ _ quote fun _ _ he => (backslash rfl he).elim, ih]
    rfl

theorem surplusQuotes_none (hrest : rest.head? ≠ some q) : surplusQuotes q rest = ([], rest) := by
  match rest with
  | [] => rfl
  | [a] =>
    have ha : a ≠ q := fun he => hrest (by rw [he]; rfl)
    rw [surplusQuotes, if_neg ha]
  | a :: b :: rest =>
    have ha : a ≠ q := fun he => hrest (by rw [he]; rfl)
    rw [surplusQuotes, if_neg ha]

theorem surplusQuotes_one (hrest : rest.head? ≠ some q) :
    surplusQuotes q (q :: rest) = ([q], rest) := by
  match rest with
  | [] => rw [surplusQuotes, if_pos rfl]
  | a :: rest =>
    have ha : a ≠ q := fun he => hrest (by rw [he]; rfl)
    rw [surplusQuotes, if_pos rfl, if_neg ha]

theorem surplusQuotes_two : surplusQuotes q (q :: q :: rest) = ([q, q], rest) := by
  rw [surplusQuotes, if_pos rfl, if_pos rfl]

/-- A character that neither ends a string nor keeps the next one from doing so belongs to it. -/
theorem multilineBody_cons {a : Char} {more : List Char} (ha : escapes = true → a ≠ '\\')
    (hmore : 2 ≤ more.length) (hopen : ¬ (a = q ∧ ∃ tail, more = q :: q :: tail)) :
    multilineBody q escapes (a :: more) =
      (multilineBody q escapes more).map fun (body, rest) => (a :: body, rest) := by
  match more with
  | b :: c :: tail =>
    have hclose : ¬ (a = q ∧ b = q ∧ c = q) := by
      rintro ⟨hone, rfl, rfl⟩
      exact hopen ⟨hone, tail, rfl⟩
    have hescape : ¬ ((escapes && decide (a = '\\')) = true) := by
      rw [Bool.and_eq_true, decide_eq_true_eq]
      rintro ⟨hescapes, hback⟩
      exact ha hescapes hback
    rw [multilineBody, if_neg hclose, if_neg hescape]

/-- Over several lines the last three quotes in a row end a string. -/
theorem multilineBody_sealed (h : Sealed q escapes 2 run body) (hq : q ≠ '\\')
    (hrest : rest.head? ≠ some q) :
    multilineBody q escapes (body ++ q :: q :: q :: rest) = some (body, rest) := by
  have hlong : ∀ body : List Char, 2 ≤ (body ++ q :: q :: q :: rest).length := by
    intro body
    simp only [List.length_append, List.length_cons]
    omega
  induction h with
  | nil => rw [List.nil_append, multilineBody, if_pos ⟨rfl, rfl, rfl⟩, surplusQuotes_none hrest]
  | @quote run body few later ih =>
    -- Only one more quote can follow in the string, so its end is near if three come in a row.
    have hopen : body = [] ∨ body = [q] ∨
        ¬ ∃ tail, body ++ q :: q :: q :: rest = q :: q :: tail := by
      cases later with
      | nil => exact .inl rfl
      | quote _ later =>
        cases later with
        | nil => exact .inr (.inl rfl)
        | quote => omega
        | escaped => exact .inr (.inr fun ⟨_, he⟩ => hq (List.cons.inj (List.cons.inj he).2).1.symm)
        | other quote =>
          exact .inr (.inr fun ⟨_, he⟩ => quote (List.cons.inj (List.cons.inj he).2).1)
      | escaped => exact .inr (.inr fun ⟨_, he⟩ => hq (List.cons.inj he).1.symm)
      | other quote => exact .inr (.inr fun ⟨_, he⟩ => quote (List.cons.inj he).1)
    rcases hopen with rfl | rfl | hopen
    · rw [List.cons_append, List.nil_append, multilineBody, if_pos ⟨rfl, rfl, rfl⟩,
        surplusQuotes_one hrest]
    · rw [List.cons_append, List.cons_append, List.nil_append, multilineBody,
        if_pos ⟨rfl, rfl, rfl⟩, surplusQuotes_two]
    · rw [List.cons_append, multilineBody_cons (fun _ => hq) (hlong _) (fun he => hopen he.2), ih]
      rfl
  | @escaped run body c counts later ih =>
    obtain ⟨a, tail, htail⟩ : ∃ a tail, body ++ q :: q :: q :: rest = a :: tail :=
      List.exists_cons_of_ne_nil (by simp)
    have hclose : ¬ ('\\' = q ∧ c = q ∧ a = q) := fun he => hq he.1.symm
    rw [List.cons_append, List.cons_append, htail, multilineBody, if_neg hclose,
      if_pos (by simp [counts]), ← htail, ih]
    rfl
  | other quote backslash later ih =>
    rw [List.cons_append, multilineBody_cons backslash (hlong _) (fun he => quote he.1), ih]
    rfl

end Bodies

section Forms

variable {f : Form}

/-- Whether a text can be written in a form. -/
def Form.Holds (cs : List Char) : Form → Prop
  | .basic | .multilineBasic => True
  | .literal => ∀ c ∈ cs, isPlain c = true ∧ c ≠ '\''
  | .multilineLiteral => (∀ c ∈ cs, isPlain c = true ∨ c = '\n') ∧ Sealed '\'' false 2 0 cs

/-- No quote follows. -/
def Unquoted (rest : List Char) : Prop := rest.head? ≠ some '"' ∧ rest.head? ≠ some '\''

theorem le_longestRun (q : Char) (run : Nat) (cs : List Char) : run ≤ longestRun q run cs := by
  induction cs generalizing run with
  | nil => exact Nat.le_refl run
  | cons c cs ih =>
    rw [longestRun]
    split_ifs
    · have hmore := ih (run + 1)
      omega
    · exact Nat.le_max_left _ _

theorem sealed_of_longestRun (h : longestRun q run cs ≤ limit) : Sealed q false limit run cs := by
  induction cs generalizing run with
  | nil => exact .nil
  | cons c cs ih =>
    rw [longestRun] at h
    split_ifs at h with hc
    · have hmore := le_longestRun q (run + 1) cs
      rw [hc]
      exact .quote (by omega) (ih h)
    · exact .other hc (by simp) (ih (by omega))

theorem not_mem_of_longestRun (h : longestRun q 0 cs = 0) : q ∉ cs := by
  induction cs with
  | nil => exact List.not_mem_nil
  | cons c cs ih =>
    rw [longestRun] at h
    split_ifs at h with hc
    · have hmore := le_longestRun q (0 + 1) cs
      omega
    · rw [List.mem_cons, not_or]
      exact ⟨Ne.symm hc, ih (by omega)⟩

theorem plain_of_traits (h : (traits cs).control = false) :
    ∀ c ∈ cs, isPlain c = true ∨ c = '\n' := by
  intro c hc
  have hcontrol := List.any_eq_false.1 h c hc
  rw [isPlain_iff]
  by_cases hfeed : c = '\n'
  · exact .inr hfeed
  · by_cases htab : c = '\t'
    · exact .inl (.inl htab)
    · exact .inl (.inr (by simpa [htab, hfeed] using hcontrol))

theorem not_mem_of_traits (h : (traits cs).lineFeed = false) : '\n' ∉ cs := by
  simpa [traits] using h

theorem literal_holds (hcontrol : (traits cs).control = false) (hsingles : (traits cs).singles = 0)
    (hfeed : (traits cs).lineFeed = false) : Form.literal.Holds cs := by
  intro c hc
  constructor
  · rcases plain_of_traits hcontrol c hc with hplain | rfl
    · exact hplain
    · exact (not_mem_of_traits hfeed hc).elim
  · rintro rfl
    exact not_mem_of_longestRun hsingles hc

/-- Texts are written in forms that can hold them. -/
theorem form_holds (cs : List Char) : (traits cs).form.Holds cs := by
  rw [Traits.form]
  split_ifs with _ hliteral _ hlines
  · trivial
  · simp only [Bool.and_eq_true, Bool.not_eq_true', decide_eq_true_eq] at hliteral
    exact literal_holds hliteral.1.1 hliteral.1.2 hliteral.2
  · trivial
  · simp only [Bool.and_eq_true, Bool.not_eq_true', decide_eq_true_eq] at hlines
    exact ⟨plain_of_traits hlines.1, sealed_of_longestRun hlines.2⟩
  · trivial
  · trivial

/-- Keys are written on one line. -/
theorem keyForm_cases (cs : List Char) : (traits cs).keyForm = .basic ∨
    (traits cs).keyForm = .literal ∧ Form.literal.Holds cs := by
  rw [Traits.keyForm]
  split_ifs with _ hliteral
  · exact .inl rfl
  · simp only [Bool.and_eq_true, Bool.not_eq_true', decide_eq_true_eq] at hliteral
    exact .inr ⟨rfl, literal_holds hliteral.1.1 hliteral.2 hliteral.1.2⟩
  · exact .inl rfl

theorem write_basic (cs rest : List Char) :
    Form.basic.write cs ++ rest = '"' :: (escape false 0 cs ++ '"' :: rest) := by
  simp [Form.write]

theorem write_literal (cs rest : List Char) :
    Form.literal.write cs ++ rest = '\'' :: (cs ++ '\'' :: rest) := by
  simp [Form.write]

theorem lineString?_basic (cs rest : List Char) :
    lineString? (Form.basic.write cs ++ rest) = some (cs, rest) := by
  have hbody : basicBody (escape false 0 cs ++ '"' :: rest) = some (escape false 0 cs, rest) :=
    basicBody_sealed (sealed_escape false 0 cs)
  rw [write_basic, lineString?, hbody]
  simp [unescape?_escape]

theorem lineString?_literal (h : Form.literal.Holds cs) (rest : List Char) :
    lineString? (Form.literal.write cs ++ rest) = some (cs, rest) := by
  have hall : ∀ c ∈ cs, (isPlain c && decide (c ≠ '\'')) = true := by
    intro c hc
    simpa using h c hc
  rw [write_literal, lineString?]
  simp only [List.takeWhile_append_of_pos hall, List.dropWhile_append_of_pos hall]
  simp

theorem dropLineEnd_of_plain (h : ∀ c, cs.head? = some c → isPlain c = true) :
    dropLineEnd cs = cs := by
  match cs with
  | [] => rfl
  | c :: cs =>
    have hc := h c rfl
    rw [dropLineEnd.eq_def]
    split
    · rename_i he
      rw [(List.cons.inj he).1] at hc
      cases hc
    · rename_i he
      rw [(List.cons.inj he).1] at hc
      cases hc
    · rfl

theorem plain_head_escape (hfeed : '\n' ∉ cs) {d : Char}
    (hd : (escape multiline run cs).head? = some d) : isPlain d = true := by
  cases cs with
  | nil =>
    rw [escape] at hd
    cases hd
  | cons c cs =>
    have hpiece := piece_escape multiline run c cs
    generalize escape multiline run (c :: cs) = written at hpiece hd
    cases hpiece with
    | quote | short | code =>
      cases hd
      decide
    | lineFeed _ is =>
      subst is
      exact (hfeed List.mem_cons_self).elim
    | plain plain =>
      cases hd
      exact plain

/-- A text that starts on a line of its own is read from there. -/
theorem dropLineEnd_lead {more : List Char} (hmore : ∀ c, more.head? = some c → isPlain c = true)
    (hbody : '\n' ∉ cs → ∀ c, body.head? = some c → isPlain c = true) :
    dropLineEnd ((if cs.contains '\n' then ['\n'] else []) ++ body ++ more) = body ++ more := by
  by_cases hfeed : '\n' ∈ cs
  · simp [hfeed, dropLineEnd]
  · have hhead : ∀ c, (body ++ more).head? = some c → isPlain c = true := by
      intro c hc
      rw [List.head?_append, Option.or_eq_some_iff] at hc
      rcases hc with hc | ⟨-, hc⟩
      · exact hbody hfeed c hc
      · exact hmore c hc
    simpa [hfeed] using dropLineEnd_of_plain hhead

theorem verbatim?_plain (h : ∀ c ∈ cs, isPlain c = true ∨ c = '\n') : verbatim? cs = some cs := by
  induction cs with
  | nil => rfl
  | cons c cs ih =>
    obtain ⟨hc, hcs⟩ := List.forall_mem_cons.1 h
    rw [verbatim?.eq_3, ih hcs]
    · rw [if_pos (by simpa only [Bool.or_eq_true, decide_eq_true_eq] using hc)]
      rfl
    · rintro _ rfl
      rcases hc with hc | hc <;> cases hc

/-- A string on one line does not look like one of several. -/
theorem string?_line (hq : q = '"' ∨ q = '\'') (hbody : body.head? ≠ some q)
    (hrest : Unquoted rest) :
    string? (q :: (body ++ q :: rest)) = lineString? (q :: (body ++ q :: rest)) := by
  have hopen : ∀ tail, body ++ q :: rest ≠ q :: q :: tail := by
    intro tail he
    cases body with
    | nil =>
      have hhead : rest.head? = some q := by
        rw [(List.cons.inj he).2]
        rfl
      rcases hq with rfl | rfl
      · exact hrest.1 hhead
      · exact hrest.2 hhead
    | cons c body => exact hbody (congrArg some (List.cons.inj he).1)
  rw [string?.eq_3]
  · rintro tail he
    obtain ⟨rfl, htail⟩ := List.cons.inj he
    exact hopen tail htail
  · rintro tail he
    obtain ⟨rfl, htail⟩ := List.cons.inj he
    exact hopen tail htail

theorem Sealed.head?_ne (h : Sealed q escapes 0 run body) (hq : q ≠ '\\') :
    body.head? ≠ some q := by
  cases h with
  | nil => exact nofun
  | quote few => cases few
  | escaped => exact fun he => hq (Option.some.inj he).symm
  | other quote => exact fun he => quote (Option.some.inj he)

/-- What is written is read back, and nothing of what follows. -/
theorem string?_write (h : f.Holds cs) (hrest : Unquoted rest) :
    string? (f.write cs ++ rest) = some (cs, rest) := by
  cases f with
  | basic =>
    have hsealed : Sealed '"' true 0 0 (escape false 0 cs) := sealed_escape false 0 cs
    have hline := lineString?_basic cs rest
    rw [write_basic] at hline ⊢
    rw [string?_line (.inl rfl) (hsealed.head?_ne (by decide)) hrest, hline]
  | literal =>
    have hhead : cs.head? ≠ some '\'' := fun he => (h _ (List.mem_of_mem_head? he)).2 rfl
    have hline := lineString?_literal h rest
    rw [write_literal] at hline ⊢
    rw [string?_line (.inr rfl) hhead hrest, hline]
  | multilineBasic =>
    have hread : dropLineEnd ((if cs.contains '\n' then ['\n'] else []) ++ escape true 0 cs ++
        '"' :: '"' :: '"' :: rest) = escape true 0 cs ++ '"' :: '"' :: '"' :: rest :=
      dropLineEnd_lead (by rintro _ ⟨⟩; rfl) fun hfeed c hc => plain_head_escape hfeed hc
    have hbody : multilineBody '"' true (escape true 0 cs ++ '"' :: '"' :: '"' :: rest) =
        some (escape true 0 cs, rest) :=
      multilineBody_sealed (sealed_escape true 0 cs) (by decide) hrest.1
    have htext : Form.multilineBasic.write cs ++ rest = '"' :: '"' :: '"' ::
        ((if cs.contains '\n' then ['\n'] else []) ++ escape true 0 cs ++
          '"' :: '"' :: '"' :: rest) := by
      simp [Form.write]
    rw [htext, string?, hread, hbody]
    simp [unescape?_escape]
  | multilineLiteral =>
    obtain ⟨hplain, hsealed⟩ := h
    have hread : dropLineEnd ((if cs.contains '\n' then ['\n'] else []) ++ cs ++
        '\'' :: '\'' :: '\'' :: rest) = cs ++ '\'' :: '\'' :: '\'' :: rest := by
      refine dropLineEnd_lead (by rintro _ ⟨⟩; rfl) fun hfeed c hc => ?_
      have hmem := List.mem_of_mem_head? hc
      rcases hplain c hmem with hc | rfl
      · exact hc
      · exact (hfeed hmem).elim
    have hbody : multilineBody '\'' false (cs ++ '\'' :: '\'' :: '\'' :: rest) = some (cs, rest) :=
      multilineBody_sealed hsealed (by decide) hrest.2
    have htext : Form.multilineLiteral.write cs ++ rest = '\'' :: '\'' :: '\'' ::
        ((if cs.contains '\n' then ['\n'] else []) ++ cs ++ '\'' :: '\'' :: '\'' :: rest) := by
      simp [Form.write]
    rw [htext, string?, hread, hbody]
    simp [verbatim?_plain hplain]

end Forms

section Keys

variable {s : String}

/-- A character with which a written key begins. -/
def IsKeyStart (c : Char) : Prop := c = '"' ∨ c = '\'' ∨ isBareKeyChar c = true

theorem quoteKey_eq (s : String) : (quoteKey s).toList =
    if isBareKey s.toList then s.toList else (traits s.toList).keyForm.write s.toList := by
  rw [quoteKey]
  split_ifs <;> simp

theorem isBareKey_iff :
    isBareKey cs = true ↔ (∃ c tail, cs = c :: tail) ∧ ∀ c ∈ cs, isBareKeyChar c = true := by
  rw [isBareKey, Bool.and_eq_true, Bool.not_eq_true', List.isEmpty_eq_false_iff,
    List.ne_nil_iff_exists_cons, List.all_eq_true]
  rfl

theorem exists_quoteKey_cons (s : String) :
    ∃ c tail, (quoteKey s).toList = c :: tail ∧ IsKeyStart c := by
  rw [quoteKey_eq]
  split_ifs with hbare
  · obtain ⟨⟨c, tail, htail⟩, hall⟩ := isBareKey_iff.1 hbare
    exact ⟨c, tail, htail, .inr (.inr (hall c (by simp [htail])))⟩
  · rcases keyForm_cases s.toList with hform | ⟨hform, -⟩
    · exact ⟨'"', _, by rw [hform]; rfl, .inl rfl⟩
    · exact ⟨'\'', _, by rw [hform]; rfl, .inr (.inl rfl)⟩

theorem keyPart?_bare (hbare : isBareKey s.toList = true)
    (hrest : ∀ c, rest.head? = some c → isBareKeyChar c = false) :
    keyPart? (s.toList ++ rest) = some (s, rest) := by
  obtain ⟨⟨c, tail, htail⟩, hall⟩ := isBareKey_iff.1 hbare
  have hpart : (s.toList ++ rest).takeWhile isBareKeyChar = s.toList ∧
      (s.toList ++ rest).dropWhile isBareKeyChar = rest := by
    rw [List.takeWhile_append_of_pos hall, List.dropWhile_append_of_pos hall]
    cases rest with
    | nil => simp
    | cons c rest => simp [hrest c rfl]
  have hhead : (s.toList ++ rest).head? = some c := by rw [htail]; rfl
  have hc : isBareKeyChar c = true := hall c (by simp [htail])
  have hnonempty : s.toList.isEmpty = false := by rw [htail]; rfl
  rw [keyPart?, hhead]
  split
  · rename_i hquote
    cases hquote
    cases hc
  · rename_i hquote
    cases hquote
    cases hc
  · simp [hpart, hnonempty]

theorem keyPart?_keyForm (s : String) (rest : List Char) :
    keyPart? ((traits s.toList).keyForm.write s.toList ++ rest) = some (s, rest) := by
  rcases keyForm_cases s.toList with hform | ⟨hform, holds⟩
  · have hline := lineString?_basic s.toList rest
    rw [hform]
    rw [write_basic] at hline ⊢
    simp [keyPart?, hline]
  · have hline := lineString?_literal holds rest
    rw [hform]
    rw [write_literal] at hline ⊢
    simp [keyPart?, hline]

/-- A key is read back in front of something that cannot belong to it. -/
theorem keyPart?_quoteKey (hrest : ∀ c, rest.head? = some c → isBareKeyChar c = false) :
    keyPart? ((quoteKey s).toList ++ rest) = some (s, rest) := by
  rw [quoteKey_eq]
  split_ifs with hbare
  · exact keyPart?_bare hbare hrest
  · exact keyPart?_keyForm s rest

theorem skipBlanks_of_head (h : ∀ c, cs.head? = some c → isBlank c = false) :
    skipBlanks cs = cs := by
  cases cs with
  | nil => rfl
  | cons c cs =>
    rw [skipBlanks, List.dropWhile_cons, h c rfl]
    rfl

theorem IsKeyStart.not_isBlank (h : IsKeyStart c) : isBlank c = false := by
  rw [← Bool.not_eq_true, isBlank, Bool.or_eq_true, beq_iff_eq, beq_iff_eq]
  rintro (rfl | rfl)
  all_goals
    rcases h with h | h | h <;> cases h

/-- A key of one part is read back up to what stands behind the blanks. -/
theorem key?_quoteKey (hrest : ∀ c, rest.head? = some c → isBareKeyChar c = false)
    (hdot : (skipBlanks rest).head? ≠ some '.') :
    key? ((quoteKey s).toList ++ rest) = some ([s], skipBlanks rest) := by
  have hskip : skipBlanks ((quoteKey s).toList ++ rest) = (quoteKey s).toList ++ rest := by
    obtain ⟨c, tail, htail, hstart⟩ := exists_quoteKey_cons s
    apply skipBlanks_of_head
    rintro d hd
    rw [htail] at hd
    cases hd
    exact hstart.not_isBlank
  rw [key?, keyParts?, hskip, keyPart?_quoteKey hrest]
  simp only [Option.bind_eq_bind, Option.bind_some]
  split
  · rename_i he
    exact (hdot (by rw [he]; rfl)).elim
  · rfl

end Keys

end Keyboards.Toml
