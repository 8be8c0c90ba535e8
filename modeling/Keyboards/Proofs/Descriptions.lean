import Keyboards.Proofs.Ibus.Listing

/-! Descriptions and languages that are read from listings. They are texts without white space at
their ends, except where a line has nothing but white space to offer for them. -/

namespace Keyboards

open Text
open Xkb (Block IsWord Layout)

variable {line name code back text description : List Char} {n : Nat}

/-- A text that is there and has no white space at its ends. -/
def Neat (s : String) : Prop := s ≠ "" ∧ Trimmed s.toList

/-- A text of one blank. -/
def OneBlank (s : String) : Prop := ∃ c, isBlank c = true ∧ s = String.ofList [c]

theorem neat_ofList : Neat (String.ofList text) ↔ text ≠ [] ∧ Trimmed text := by
  simp [Neat, String.ext_iff]

theorem neat_iff_of_behind (h : Behind n back text) :
    Neat (String.ofList text) ↔ ¬back.all isBlank = true := by
  rw [neat_ofList, and_iff_right h.ne_nil, h.trimmed_iff]

theorem neat_or_oneBlank (h : Behind n back text) :
    Neat (String.ofList text) ∨ OneBlank (String.ofList text) := by
  by_cases trimmed : Trimmed text
  · exact .inl (neat_ofList.2 ⟨h.ne_nil, trimmed⟩)
  · obtain ⟨c, blank, rfl⟩ := h.blank_of_not_trimmed trimmed
    exact .inr ⟨c, blank, rfl⟩

namespace Xkb.Rules

variable {block : Block} {l : Layout}

/-- A line with a name, and `n` blanks where the description should be. -/
def Bare (line : List Char) (n : Nat) : Prop :=
  ∃ name gap, Indents line name gap ∧ gap.all isBlank = true ∧ gap.length = n

/-- A line with a name and a code, and nothing but blanks behind the code. -/
def CodeOnly (line : List Char) : Prop :=
  ∃ name gap code blanks, Indents line name (gap ++ (code ++ ':' :: blanks)) ∧
    IsGap gap ∧ code ≠ [] ∧ (∀ c ∈ code, isBlank c = false) ∧ ':' ∉ code ∧
    blanks.all isBlank = true

/-- Behind a word, a code and a colon stands a text without white space at its ends. -/
theorem neat_of_variantOf? (trimmed : Trimmed description)
    (h : variantOf? description = some (code, text)) : Neat (String.ofList text) := by
  obtain ⟨coded, solid, noColon, rest, rfl⟩ := exists_cut_of_variantOf? h
  rw [variantOf?_cut solid coded noColon] at h
  obtain ⟨blanks, hblanks, hrest⟩ := exists_trimStart rest
  split at h
  next hempty =>
    -- the last blank would end the description, which does not end in white space
    obtain ⟨c, hlast, -⟩ := Option.map_eq_some_iff.1 h
    rw [List.isEmpty_iff.1 hempty, List.append_nil] at hrest
    rw [← hrest] at hblanks
    have visible := trimmed.last c (by rw [List.getLast?_append, List.getLast?_cons, hlast]; rfl)
    exact absurd (List.all_eq_true.1 hblanks c (List.mem_of_getLast? hlast)) (by simp [visible])
  next hempty =>
    obtain ⟨-, rfl⟩ := Prod.mk.inj (Option.some.inj h)
    have hcut : code ++ ':' :: rest = (code ++ ':' :: blanks) ++ trimStart rest := by
      rw [List.append_assoc, List.cons_append, ← hrest]
    exact neat_ofList.2 ⟨by simpa using hempty,
      .of_suffix (hcut ▸ trimmed) fun c => head_dropWhile_isBlank⟩

/-- A description is what is behind the name, unless there are only blanks. -/
theorem neat_iff_of_item? (h : item? line = some (name, description)) :
    Neat (String.ofList description) ↔ ∀ n, ¬Bare line n := by
  obtain ⟨back, hline, behind⟩ := item?_eq_some_iff.1 h
  rw [neat_iff_of_behind behind]
  constructor
  · rintro visible n ⟨name', gap, hline', blank, -⟩
    obtain ⟨-, rfl⟩ := hline.unique hline'
    exact visible blank
  · exact fun hbare blank => hbare back.length ⟨name, back, hline, blank, rfl⟩

/-- A line with a code in its description is not bare. -/
theorem trimmed_of_variantOf? (h : item? line = some (name, description))
    (hvariant : variantOf? description = some (code, text)) : Trimmed description := by
  obtain ⟨back, -, behind⟩ := item?_eq_some_iff.1 h
  by_contra hn
  obtain ⟨c, -, rfl⟩ := behind.blank_of_not_trimmed hn
  obtain ⟨coded, -, -, rest, hcut⟩ := exists_cut_of_variantOf? hvariant
  have hlength := congrArg List.length hcut
  simp only [List.length_append, List.length_cons, List.length_nil] at hlength
  have := List.length_pos_iff.2 coded
  omega

theorem description_of_layout? (h : layout? block line = some l) :
    Neat l.description ∨ l.variant = none ∧ OneBlank l.description := by
  obtain ⟨name, d, hitem, ⟨-, rfl⟩ | ⟨-, code, text, hvariant, rfl⟩⟩ := layout?_eq_some h
  · obtain ⟨back, -, behind⟩ := item?_eq_some_iff.1 hitem
    exact (neat_or_oneBlank behind).imp_right (⟨rfl, ·⟩)
  · exact .inl (neat_of_variantOf? (trimmed_of_variantOf? hitem hvariant) hvariant)

theorem neat_iff_of_layout? (h : layout? block line = some l) :
    Neat l.description ↔ ∀ n, ¬Bare line n := by
  obtain ⟨name, d, hitem, ⟨-, rfl⟩ | ⟨-, code, text, hvariant, rfl⟩⟩ := layout?_eq_some h
  · exact neat_iff_of_item? hitem
  · have trimmed := trimmed_of_variantOf? hitem hvariant
    refine iff_of_true (neat_of_variantOf? trimmed hvariant) ((neat_iff_of_item? hitem).1 ?_)
    obtain ⟨back, -, behind⟩ := item?_eq_some_iff.1 hitem
    exact neat_ofList.2 ⟨behind.ne_nil, trimmed⟩

/-- A bare line is read as a layout if it has more than one blank behind the name. -/
theorem isSome_layout?_of_bare (h : Bare line n) :
    (layout? block line).isSome = true ↔ block = .layouts ∧ 2 ≤ n := by
  cases block with
  | other => simp [layout?]
  | layouts =>
    obtain ⟨name, gap, hline, blank, rfl⟩ := h
    rw [layout?, item?_of_indents hline, Option.isSome_map, Option.isSome_map,
      isSome_behindBlanks?_of_blank blank, and_iff_right rfl, Nat.succ_le_iff]
  | variants =>
    constructor
    · intro hsome
      obtain ⟨l, hl⟩ := Option.isSome_iff_exists.1 hsome
      obtain ⟨name, d, hitem, ⟨⟨⟩, -⟩ | ⟨-, code, text, hvariant, rfl⟩⟩ := layout?_eq_some hl
      have neat := neat_of_variantOf? (trimmed_of_variantOf? hitem hvariant) hvariant
      exact ((neat_iff_of_layout? hl).1 neat n h).elim
    · rintro ⟨⟨⟩, -⟩

theorem layout?_of_codeOnly (h : CodeOnly line) : layout? .variants line = none := by
  obtain ⟨name, gap, code, blanks, hline, ⟨gapped, hgap⟩, coded, solid, noColon, hblanks⟩ := h
  have hsolid : ∀ c ∈ code ++ [':'], isBlank c = false :=
    List.forall_mem_append.2 ⟨solid, List.forall_mem_singleton.2 (by decide)⟩
  have behind : Behind 1 (gap ++ ((code ++ [':']) ++ blanks)) (code ++ [':']) :=
    .text (List.all_eq_true.2 hgap) (List.length_pos_iff.2 gapped) (.of_solid hsolid) (by simp)
      hblanks
  have hitem : item? line = some (name, code ++ [':']) :=
    item?_eq_some_iff.2 ⟨_, by simpa using hline, behind⟩
  have hvariant : variantOf? (code ++ [':']) = none := by
    rw [variantOf?_cut solid coded noColon]
    rfl
  simp [layout?, hitem, hvariant]

/-- What a rules list gives: words for names, and a description but where a line has none. -/
structure Reading (content : String) (layouts : List Layout) : Prop where
  names : ∀ l ∈ layouts, l.WellFormed
  descriptions : ∀ l ∈ layouts, Neat l.description ∨ l.variant = none ∧ OneBlank l.description
  neat_iff : (∀ l ∈ layouts, Neat l.description) ↔ ∀ head line, header? head = some .layouts →
    Under header? (lines content.toList) head line → ∀ n, 2 ≤ n → ¬Bare line n

theorem reading_of_read {content : String} {layouts : List Layout}
    (h : read content = .ok layouts) : Reading content layouts := by
  have hlayouts : layouts = layoutsFrom .other (lines content.toList) := by
    rw [read] at h
    split at h
    · exact (Except.ok.inj h).symm
    · cases h
  have hne : Block.layouts ≠ .other := by decide
  subst hlayouts
  refine ⟨fun l => wellFormed_of_mem_layoutsFrom, fun l hl => ?_, fun neat head line hhead hunder n
    hn hbare => ?_, fun described l hl => ?_⟩
  · obtain ⟨block, line, -, hline⟩ := mem_layoutsFrom.1 hl
    exact description_of_layout? hline
  · obtain ⟨l, hl⟩ := Option.isSome_iff_exists.1 ((isSome_layout?_of_bare hbare).2 ⟨rfl, hn⟩)
    have hmem := (mem_headed_of_ne hne).2 ⟨head, hhead, hunder⟩
    exact (neat_iff_of_layout? hl).1 (neat l (mem_layoutsFrom.2 ⟨_, line, hmem, hl⟩)) n hbare
  · obtain ⟨block, line, hmem, hline⟩ := mem_layoutsFrom.1 hl
    refine (neat_iff_of_layout? hline).2 fun n hbare => ?_
    obtain ⟨rfl, hn⟩ := (isSome_layout?_of_bare hbare).1 (Option.isSome_of_mem hline)
    obtain ⟨head, hhead, hunder⟩ := (mem_headed_of_ne hne).1 hmem
    exact described head line hhead hunder n hn hbare

end Xkb.Rules

namespace Ibus.Engine

variable {said : List Char} {e : Engine}

/-- A line with a name and a dash, and `n` blanks where the description should be. -/
def Bare (line : List Char) (n : Nat) : Prop :=
  ∃ name gap back, Indents line name (gap ++ '-' :: back) ∧ gap.all isBlank = true ∧
    back.all isBlank = true ∧ back.length = n

/-- A header with blanks where the language should be. -/
def BareHeader (line : List Char) : Prop :=
  ∃ gap, Xkb.Rules.IsGap gap ∧ line = "language:".toList ++ gap

theorem neat_iff_of_item? (h : item? line = some (name, description)) :
    Neat (String.ofList description) ↔ ∀ n, ¬Bare line n := by
  obtain ⟨gap, back, hline, hgap, behind⟩ := item?_eq_some_iff.1 h
  rw [neat_iff_of_behind behind]
  constructor
  · rintro visible n ⟨name', gap', back', hline', hgap', blank, -⟩
    have hback := congrArg (List.dropWhile isBlank) (hline.unique hline').2
    rw [dropWhile_dash hgap, dropWhile_dash hgap'] at hback
    exact visible ((List.cons.inj hback).2 ▸ blank)
  · exact fun hbare blank => hbare back.length ⟨name, gap, back, hline, hgap, blank, rfl⟩

theorem isSome_item?_of_bare (h : Bare line n) : (item? line).isSome = true ↔ 2 ≤ n := by
  obtain ⟨name, gap, back, hline, hgap, blank, rfl⟩ := h
  rw [item?_of_indents hline hgap, Option.isSome_map, isSome_behindBlanks?_of_blank blank,
    Nat.succ_le_iff]

theorem BareHeader.isHeader (h : BareHeader line) : IsHeader line := by
  obtain ⟨gap, hgap, rfl⟩ := h
  exact ⟨gap, hgap.nonempty, rfl⟩

theorem neat_iff_of_header? (h : header? line = some said) :
    Neat (String.ofList said) ↔ ¬BareHeader line := by
  obtain ⟨text, rfl, behind⟩ := header?_eq_some_iff.1 h
  rw [neat_iff_of_behind behind]
  refine not_congr ⟨fun blank => ⟨text, ⟨?_, List.all_eq_true.1 blank⟩, rfl⟩, ?_⟩
  · rintro rfl
    cases behindBlanks?_of_behind behind
  · rintro ⟨gap, hgap, hline⟩
    rw [List.append_cancel_left hline]
    exact List.all_eq_true.2 hgap.blank

theorem neat_or_oneBlank_of_header? (h : header? line = some said) :
    Neat (String.ofList said) ∨ OneBlank (String.ofList said) := by
  obtain ⟨text, -, behind⟩ := header?_eq_some_iff.1 h
  exact neat_or_oneBlank behind

/-- What an engine list gives: words for names, and a description and a language but where a line
has none. -/
structure Reading (output : String) (engines : List Engine) : Prop where
  names : ∀ e ∈ engines, IsWord e.name
  descriptions : ∀ e ∈ engines, Neat e.description ∨ OneBlank e.description
  languages : ∀ e ∈ engines, Neat e.language ∨ OneBlank e.language
  neat_description_iff : (∀ e ∈ engines, Neat e.description) ↔
    ∀ line ∈ lines output.toList, ∀ n, 2 ≤ n → ¬Bare line n
  neat_language_iff : (∀ e ∈ engines, Neat e.language) ↔
    ∀ head line, Under header? (lines output.toList) head line → IsItem line → ¬BareHeader head

theorem mem_underHeaders {ls : List (List Char)} : (some said, line) ∈ underHeaders none ls ↔
    ∃ head, header? head = some said ∧ Under header? ls head line := by
  rw [underHeaders, mem_headed_of_ne (Option.some_ne_none said)]
  simp [Under]

/-- An engine stands on an item under the header that names its language. -/
theorem mem_engines {ls : List (List Char)} {engines : List Engine}
    (h : listFrom none ls = .ok engines) : e ∈ engines ↔ ∃ head line said name description,
      Under header? ls head line ∧ header? head = some said ∧
        item? line = some (name, description) ∧
        e = ⟨String.ofList name, String.ofList description, String.ofList said⟩ := by
  obtain ⟨-, rfl⟩ := listFrom_eq_ok_iff.1 h
  rw [List.mem_filterMap]
  constructor
  · rintro ⟨⟨context, line⟩, hmem, he⟩
    cases context with
    | none => cases he
    | some said =>
      obtain ⟨head, hhead, hunder⟩ := mem_underHeaders.1 hmem
      obtain ⟨⟨name, d⟩, hitem, rfl⟩ := Option.map_eq_some_iff.1 he
      exact ⟨head, line, said, name, d, hunder, hhead, hitem, rfl⟩
  · rintro ⟨head, line, said, name, d, hunder, hhead, hitem, rfl⟩
    exact ⟨(some said, line), mem_underHeaders.2 ⟨head, hhead, hunder⟩, by simp [engine?, hitem]⟩

/-- Every item of an engine list that is accepted stands under a header. -/
theorem exists_under {ls : List (List Char)} {engines : List Engine}
    (h : listFrom none ls = .ok engines) (hline : line ∈ ls) (hitem : IsItem line) :
    ∃ head said, Under header? ls head line ∧ header? head = some said := by
  obtain ⟨before, after, rfl⟩ := List.append_of_mem hline
  let context := heading (fun line => (header? line).map some) none before
  have hheader : header? line = none := header?_eq_none_iff.2 hitem.not_isHeader
  have hmem : (context, line) ∈ underHeaders none (before ++ line :: after) :=
    mem_headed.2 ⟨by rw [hheader, Option.map_none], before, after, rfl, rfl⟩
  cases hcontext : context with
  | none =>
    rw [hcontext] at hmem
    exact (item?_eq_none_iff.1 ((listFrom_eq_ok_iff.1 h).1 line hmem) hitem).elim
  | some said =>
    rw [hcontext] at hmem
    obtain ⟨head, hhead, hunder⟩ := mem_underHeaders.1 hmem
    exact ⟨head, said, hunder, hhead⟩

theorem reading_of_readList {output : String} {engines : List Engine}
    (h : readList output = .ok engines) : Reading output engines := by
  rw [readList] at h
  refine ⟨fun e he => ?_, fun e he => ?_, fun e he => ?_, ?_, ?_⟩
  · obtain ⟨head, line, said, name, d, -, -, hitem, rfl⟩ := (mem_engines h).1 he
    obtain ⟨gap, back, ⟨indent, -, -, named, solid, -⟩, -⟩ := item?_eq_some_iff.1 hitem
    exact Xkb.isWord_ofList named solid
  · obtain ⟨head, line, said, name, d, -, -, hitem, rfl⟩ := (mem_engines h).1 he
    obtain ⟨gap, back, -, -, behind⟩ := item?_eq_some_iff.1 hitem
    exact neat_or_oneBlank behind
  · obtain ⟨head, line, said, name, d, -, hhead, -, rfl⟩ := (mem_engines h).1 he
    exact neat_or_oneBlank_of_header? hhead
  · constructor
    · intro neat line hline n hn hbare
      have hsome := (isSome_item?_of_bare hbare).2 hn
      obtain ⟨head, said, hunder, hhead⟩ := exists_under h hline (isSome_item?.1 hsome)
      obtain ⟨⟨name, d⟩, hitem⟩ := Option.isSome_iff_exists.1 hsome
      have hmem := (mem_engines h).2 ⟨head, line, said, name, d, hunder, hhead, hitem, rfl⟩
      exact (neat_iff_of_item? hitem).1 (neat _ hmem) n hbare
    · intro described e he
      obtain ⟨head, line, said, name, d, hunder, -, hitem, rfl⟩ := (mem_engines h).1 he
      refine (neat_iff_of_item? hitem).2 fun n hbare => ?_
      have hn := (isSome_item?_of_bare hbare).1 (Option.isSome_of_mem hitem)
      exact described line hunder.mem n hn hbare
  · constructor
    · intro neat head line hunder hitem hbare
      obtain ⟨said, hhead⟩ := Option.isSome_iff_exists.1 (isSome_header?.2 hbare.isHeader)
      obtain ⟨⟨name, d⟩, hitem⟩ := Option.isSome_iff_exists.1 (isSome_item?.2 hitem)
      have hmem := (mem_engines h).2 ⟨head, line, said, name, d, hunder, hhead, hitem, rfl⟩
      exact (neat_iff_of_header? hhead).1 (neat _ hmem) hbare
    · intro titled e he
      obtain ⟨head, line, said, name, d, hunder, hhead, hitem, rfl⟩ := (mem_engines h).1 he
      exact (neat_iff_of_header? hhead).2
        (titled head line hunder (isSome_item?.1 (Option.isSome_of_mem hitem)))

end Ibus.Engine

variable {content output : String} {layouts : List Layout} {engines : List Ibus.Engine}

/-- Names that are read from listings are words, and descriptions and languages are texts without
white space at their ends, except on a bare line: a layout, an engine or a language is read from it
nevertheless if there is one blank more than has to be. A variant never is. -/
theorem readings_exact (hlayouts : Xkb.Rules.read content = .ok layouts)
    (hengines : Ibus.Engine.readList output = .ok engines) :
    Xkb.Rules.Reading content layouts ∧ Ibus.Engine.Reading output engines ∧
      (∀ block line n, Xkb.Rules.Bare line n →
        ((Xkb.Rules.layout? block line).isSome = true ↔ block = .layouts ∧ 2 ≤ n)) ∧
      (∀ line, Xkb.Rules.CodeOnly line → Xkb.Rules.layout? .variants line = none) ∧
      ∀ line n, Ibus.Engine.Bare line n →
        ((Ibus.Engine.item? line).isSome = true ↔ 2 ≤ n) :=
  ⟨Xkb.Rules.reading_of_read hlayouts, Ibus.Engine.reading_of_readList hengines,
    fun _ _ _ => Xkb.Rules.isSome_layout?_of_bare, fun _ => Xkb.Rules.layout?_of_codeOnly,
    fun _ _ => Ibus.Engine.isSome_item?_of_bare⟩

theorem readings_exact_plain :
    Xkb.Rules.Reading "! layout\n  us  English\n" [⟨"us", none, "English"⟩] ∧
      Ibus.Engine.Reading "language: Chinese\n  pinyin - Pinyin\n"
        [⟨"pinyin", "Pinyin", "Chinese"⟩] :=
  have hlayouts : Xkb.Rules.read "! layout\n  us  English\n" = .ok [⟨"us", none, "English"⟩] := rfl
  have hengines : Ibus.Engine.readList "language: Chinese\n  pinyin - Pinyin\n" =
      .ok [⟨"pinyin", "Pinyin", "Chinese"⟩] := rfl
  have h := readings_exact hlayouts hengines
  ⟨h.1, h.2.1⟩

/-- Bare lines are accepted, and a blank is read from them. -/
theorem blank_read :
    Xkb.Rules.read "! layout\n  us   \n" = .ok [⟨"us", none, " "⟩] ∧
      Ibus.Engine.readList "language: Chinese\n  pinyin -  \n" = .ok [⟨"pinyin", " ", "Chinese"⟩] ∧
      Ibus.Engine.readList "language: \n  pinyin - Pinyin\n" = .ok [⟨"pinyin", "Pinyin", " "⟩] ∧
      ¬Neat " " :=
  ⟨rfl, rfl, rfl, fun h => absurd (h.2.head ' ' rfl) (by decide)⟩

end Keyboards
