import Keyboards.Ibus.Engine
import Keyboards.Proofs.Text.Headed
import Keyboards.Proofs.Xkb.Rendering

/-! Listings of input-method engines: what counts as a line, and what is read from the whole. -/

namespace Keyboards.Ibus

open Text
open Xkb (IsWord)
open Xkb.Rules (IsGap IsPhrase)

variable {line name gap back description : List Char} {ls rest : List (List Char)}
  {language : Option (List Char)}

/-- A line that begins as a header does and does not end there. -/
def IsHeader (line : List Char) : Prop := ∃ text, text ≠ [] ∧ line = "language:".toList ++ text

/-- An indented word, and then a dash between white space that is not the end of the line. -/
def IsItem (line : List Char) : Prop :=
  ∃ indent name gap back text, IsGap indent ∧ name ≠ [] ∧ (∀ c ∈ name, isBlank c = false) ∧
    IsGap gap ∧ IsGap back ∧ text ≠ [] ∧
    line = indent ++ (name ++ (gap ++ '-' :: (back ++ text)))

theorem IsHeader.append (h : IsHeader line) (rest : List Char) : IsHeader (line ++ rest) := by
  obtain ⟨text, nonempty, rfl⟩ := h
  exact ⟨text ++ rest, by simp [nonempty], List.append_assoc ..⟩

theorem IsItem.append (h : IsItem line) (rest : List Char) : IsItem (line ++ rest) := by
  obtain ⟨indent, name, gap, back, text, hindent, named, solid, hgap, hback, nonempty, rfl⟩ := h
  exact ⟨indent, name, gap, back, text ++ rest, hindent, named, solid, hgap, hback,
    by simp [nonempty], by simp⟩

theorem IsItem.not_isHeader (h : IsItem line) : ¬IsHeader line := by
  obtain ⟨indent, name, gap, back, text, ⟨indented, blank⟩, -, -, -, -, -, rfl⟩ := h
  obtain ⟨c, indent, rfl⟩ := List.exists_cons_of_ne_nil indented
  rintro ⟨text, -, hline⟩
  obtain ⟨rfl, -⟩ := List.cons.inj hline
  exact absurd (blank 'l' (.head _)) (by decide)

namespace Engine

theorem header?_append (text : List Char) :
    header? ("language:".toList ++ text) = behindBlanks? 0 text := by
  rw [header?, if_pos (List.isPrefixOf_iff_prefix.2 (List.prefix_append ..)), List.drop_left]

/-- What a header says is what stands behind its label. -/
theorem header?_eq_some_iff : header? line = some name ↔
    ∃ text, line = "language:".toList ++ text ∧ Behind 0 text name := by
  constructor
  · intro h
    by_cases hlabel : "language:".toList <+: line
    · obtain ⟨text, rfl⟩ := hlabel
      rw [header?_append] at h
      exact ⟨text, rfl, behindBlanks?_eq_some_iff.1 h⟩
    · rw [header?, if_neg (by simpa using hlabel)] at h
      cases h
  · rintro ⟨text, rfl, behind⟩
    rw [header?_append, behindBlanks?_of_behind behind]

theorem isSome_header? : (header? line).isSome = true ↔ IsHeader line := by
  constructor
  · intro h
    obtain ⟨name, hname⟩ := Option.isSome_iff_exists.1 h
    obtain ⟨text, rfl, behind⟩ := header?_eq_some_iff.1 hname
    exact ⟨text, by cases behind <;> simp_all, rfl⟩
  · rintro ⟨text, nonempty, rfl⟩
    rw [header?_append, isSome_behindBlanks?]
    exact ⟨[], text, rfl, rfl, Nat.zero_le _, nonempty⟩

theorem dropWhile_dash (blank : gap.all isBlank = true) :
    (gap ++ '-' :: back).dropWhile isBlank = '-' :: back :=
  dropWhile_blanks blank (by rintro c ⟨⟩; rfl)

theorem item?_of_indents (h : Indents line name (gap ++ '-' :: back))
    (blank : gap.all isBlank = true) : item? line = (behindBlanks? 1 back).map (name, ·) := by
  obtain ⟨indented, rfl, named, hgap⟩ := indents_iff.1 h
  simp only [item?, decide_eq_false indented, List.isEmpty_eq_false_iff.2 named, Bool.or_false,
    Bool.false_eq_true, if_false, hgap, dropWhile_dash blank]

/-- An item is an indented word with a dash and a description behind it. -/
theorem item?_eq_some_iff : item? line = some (name, description) ↔
    ∃ gap back, Indents line name (gap ++ '-' :: back) ∧ gap.all isBlank = true ∧
      Behind 1 back description := by
  constructor
  · intro h
    simp only [item?] at h
    split at h
    next => cases h
    next hn =>
      rw [Bool.or_eq_true, decide_eq_true_eq, List.isEmpty_iff, not_or] at hn
      split at h
      next back hback =>
        obtain ⟨d, found, he⟩ := Option.map_eq_some_iff.1 h
        obtain ⟨hname, rfl⟩ := Prod.mk.inj he
        have happend := List.takeWhile_append_dropWhile (p := isBlank)
          (l := (line.dropWhile isBlank).dropWhile (!isBlank ·))
        rw [hback] at happend
        exact ⟨_, back, indents_iff.2 ⟨hn.1, hname, hname ▸ hn.2, happend.symm⟩,
          List.all_takeWhile, behindBlanks?_eq_some_iff.1 found⟩
      next => cases h
  · rintro ⟨gap, back, hline, blank, behind⟩
    rw [item?_of_indents hline blank, behindBlanks?_of_behind behind, Option.map_some]

theorem isSome_item? : (item? line).isSome = true ↔ IsItem line := by
  constructor
  · intro h
    obtain ⟨⟨name, description⟩, hitem⟩ := Option.isSome_iff_exists.1 h
    obtain ⟨gap, back, ⟨indent, indented, blank, named, solid, gapped, rfl⟩, hgap, behind⟩ :=
      item?_eq_some_iff.1 hitem
    obtain ⟨front, text, rfl, hfront, enough, nonempty⟩ :=
      isSome_behindBlanks?.1 (Option.isSome_of_mem (behindBlanks?_of_behind behind))
    refine ⟨indent, name, gap, front, text, ⟨indented, List.all_eq_true.1 blank⟩, named, solid,
      ⟨?_, List.all_eq_true.1 hgap⟩, ⟨List.ne_nil_of_length_pos enough, List.all_eq_true.1 hfront⟩,
      nonempty, rfl⟩
    rintro rfl
    exact absurd (gapped '-' rfl) (by decide)
  · rintro ⟨indent, name, gap, back, text, hindent, named, solid, hgap, hback, nonempty, rfl⟩
    have found : (behindBlanks? 1 (back ++ text)).isSome = true :=
      isSome_behindBlanks?.2 ⟨back, text, rfl, List.all_eq_true.2 hback.blank,
        List.length_pos_iff.2 hback.nonempty, nonempty⟩
    obtain ⟨description, hdescription⟩ := Option.isSome_iff_exists.1 found
    obtain ⟨b, gap, rfl⟩ := List.exists_cons_of_ne_nil hgap.nonempty
    refine Option.isSome_iff_exists.2 ⟨(name, description), item?_eq_some_iff.2 ⟨b :: gap,
      back ++ text, ⟨indent, hindent.nonempty, List.all_eq_true.2 hindent.blank, named, solid, ?_,
      rfl⟩, List.all_eq_true.2 hgap.blank, behindBlanks?_eq_some_iff.1 hdescription⟩⟩
    rintro c ⟨⟩
    exact hgap.blank b (.head _)

theorem header?_eq_none_iff : header? line = none ↔ ¬IsHeader line := by
  rw [← isSome_header?, Bool.not_eq_true, Option.isSome_eq_false_iff, Option.isNone_iff_eq_none]

theorem item?_eq_none_iff : item? line = none ↔ ¬IsItem line := by
  rw [← isSome_item?, Bool.not_eq_true, Option.isSome_eq_false_iff, Option.isNone_iff_eq_none]

/-- The lines that are no headers, each with its language once there has been a header. -/
def underHeaders (language : Option (List Char)) (ls : List (List Char)) :
    List (Option (List Char) × List Char) :=
  headed (fun line => (header? line).map some) language ls

/-- The engine on a line under its language. -/
def engine? : Option (List Char) × List Char → Option Engine
  | (none, _) => none
  | (some language, line) => (item? line).map fun (name, d) =>
      ⟨String.ofList name, String.ofList d, String.ofList language⟩

theorem map_eq_ok_iff {ε α β : Type} {f : α → β} {x : Except ε α} {b : β} :
    x.map f = .ok b ↔ ∃ a, x = .ok a ∧ f a = b := by
  cases x <;> simp [Except.map]

/-- A reader succeeds with the engines under headers, unless an item has no header. -/
theorem listFrom_eq_ok_iff {engines : List Engine} : listFrom language ls = .ok engines ↔
    (∀ line, (none, line) ∈ underHeaders language ls → item? line = none) ∧
      (underHeaders language ls).filterMap engine? = engines := by
  rw [underHeaders]
  induction ls generalizing language engines with
  | nil => simp [listFrom, headed]
  | cons line ls ih =>
    cases hheader : header? line with
    | some next =>
      simp only [listFrom, hheader]
      rw [headed_cons_some (by rw [hheader, Option.map_some])]
      exact ih
    | none =>
      rw [headed_cons_none (by rw [hheader, Option.map_none])]
      cases hitem : item? line with
      | none =>
        have hengine : engine? (language, line) = none := by
          cases language <;> simp [engine?, hitem]
        simp [listFrom, hheader, hitem, hengine, ih, or_imp, forall_and]
      | some found =>
        cases language with
        | none => simp [listFrom, hheader, hitem]
        | some said =>
          simp [listFrom, hheader, hitem, engine?, map_eq_ok_iff, ih, and_assoc]

theorem listFrom_remarks (h : ∀ line ∈ ls, header? line = none ∧ item? line = none) :
    listFrom language (ls ++ rest) = listFrom language rest := by
  induction ls with
  | nil => rfl
  | cons line ls ih =>
    obtain ⟨⟨hheader, hitem⟩, hls⟩ := List.forall_mem_cons.1 h
    simp only [List.cons_append, listFrom, hheader, hitem, ih hls]

/-- A reader without a language fails if it gets to an item before it gets to a header. -/
theorem listFrom_eq_error_iff : (∃ e, listFrom none ls = .error e) ↔
    ∃ before line after, ls = before ++ line :: after ∧ IsItem line ∧
      ∀ l ∈ before, ¬IsHeader l := by
  have herror : (∃ e, listFrom none ls = .error e) ↔
      ¬∃ engines, listFrom none ls = .ok engines := by
    cases listFrom none ls <;> simp
  simp only [herror, listFrom_eq_ok_iff, exists_and_left, exists_eq', and_true, not_forall,
    underHeaders, mem_headed, Option.map_eq_none_iff, heading_eq_none, header?_eq_none_iff,
    item?_eq_none_iff, not_not]
  constructor
  · rintro ⟨line, ⟨-, before, after, hls, hbefore⟩, item⟩
    exact ⟨before, line, after, hls, item, hbefore⟩
  · rintro ⟨before, line, after, hls, item, hbefore⟩
    exact ⟨line, ⟨item.not_isHeader, before, after, hls, hbefore⟩, item⟩

end Engine

/-- An engine as it is listed under its language. -/
structure Item where
  name : String
  description : String
  word : IsWord name
  phrase : IsPhrase description

/-- A line that is neither a header nor an item. -/
structure Remark where
  text : String
  line : '\n' ∉ text.toList
  noHeader : ¬IsHeader text.toList
  noItem : ¬IsItem text.toList

/-- A line below a header. -/
inductive Entry where
  | item (i : Item)
  | remark (r : Remark)

/-- The engines for a language, with other lines anywhere between them. -/
structure Section where
  language : String
  phrase : IsPhrase language
  entries : List Entry

/-- A listing: remarks and then languages, in any order and any number. -/
structure Listing where
  preamble : List Remark
  sections : List Section

def Item.render (i : Item) : String := "  " ++ i.name ++ " - " ++ i.description

def Entry.render : Entry → String
  | item i => i.render
  | remark r => r.text

/-- The engine that an entry lists. -/
def Entry.engine? (language : String) : Entry → Option Engine
  | item i => some ⟨i.name, i.description, language⟩
  | remark _ => none

namespace Section

def header (s : Section) : String := "language: " ++ s.language

def lines (s : Section) : List String := s.header :: s.entries.map Entry.render

def engines (s : Section) : List Engine := s.entries.filterMap (Entry.engine? s.language)

end Section

namespace Listing

def lines (l : Listing) : List String :=
  l.preamble.map Remark.text ++ l.sections.flatMap Section.lines

def engines (l : Listing) : List Engine := l.sections.flatMap Section.engines

end Listing

open Engine

/-- A remark is a remark also without a return at its end. -/
theorem Remark.received (r : Remark) (e : LineEnd) :
    header? (e.received r.text.toList) = none ∧ item? (e.received r.text.toList) = none := by
  obtain ⟨tail, htail⟩ := e.received_prefix r.text.toList
  rw [header?_eq_none_iff, item?_eq_none_iff]
  constructor
  · intro h
    exact r.noHeader (htail ▸ h.append tail)
  · intro h
    exact r.noItem (htail ▸ h.append tail)

theorem Item.received (i : Item) (e : LineEnd) : header? (e.received i.render.toList) = none ∧
    item? (e.received i.render.toList) = some (i.name.toList, i.description.toList) := by
  have hline : i.render.toList = "  ".toList ++ (i.name.toList ++ (" ".toList ++ '-' ::
      (" ".toList ++ i.description.toList))) := by
    simp [render]
  have hreceived : e.received i.render.toList = i.render.toList := by
    have hfront : i.render.toList = ("  ".toList ++ i.name.toList ++ " - ".toList) ++
        i.description.toList := by
      simp [render]
    rw [hfront, i.phrase.received e]
  rw [hreceived, hline]
  have behind : Behind 1 (" ".toList ++ i.description.toList) i.description.toList :=
    i.phrase.behind rfl (Nat.le_refl 1)
  refine ⟨rfl, item?_eq_some_iff.2 ⟨" ".toList, _, ?_, rfl, behind⟩⟩
  exact ⟨"  ".toList, by decide, rfl, i.word.toList_ne_nil, i.word.2, by rintro c ⟨⟩; rfl, rfl⟩

theorem Section.header?_received (s : Section) (e : LineEnd) :
    header? (e.received s.header.toList) = some s.language.toList := by
  have hline : s.header.toList = "language:".toList ++ (" ".toList ++ s.language.toList) := by
    simp [Section.header]
  rw [hline, ← List.append_assoc, s.phrase.received e, List.append_assoc, header?_append]
  exact behindBlanks?_of_behind (s.phrase.behind rfl (Nat.zero_le _))

/-- An entry is no header, and lists its engine in the language it stands under. -/
theorem Entry.received (x : Entry) (language : String) (e : LineEnd) :
    header? (e.received x.render.toList) = none ∧
      Engine.engine? (some language.toList, e.received x.render.toList) = x.engine? language := by
  cases x with
  | item i =>
    obtain ⟨hheader, hitem⟩ := i.received e
    exact ⟨hheader, by simp [Entry.render, Engine.engine?, hitem, Entry.engine?]⟩
  | remark r =>
    obtain ⟨hheader, hitem⟩ := r.received e
    exact ⟨hheader, by simp [Entry.render, Engine.engine?, hitem, Entry.engine?]⟩

/-- Below headers every line has a language, and the engines are those that are listed. -/
theorem underHeaders_sections (sections : List Section) (language : Option (List Char))
    (ending : Nat → LineEnd) :
    let lines := underHeaders language (received ending (sections.flatMap Section.lines))
    (∀ line, (none, line) ∉ lines) ∧
      lines.filterMap Engine.engine? = sections.flatMap Section.engines := by
  -- the header of a section comes first, so `language` does not matter
  induction sections generalizing language ending with
  | nil => exact ⟨nofun, rfl⟩
  | cons s sections ih =>
    have hheader := s.header?_received (ending 0)
    have plain : ∀ line ∈ received (fun n => ending (n + 1)) (s.entries.map Entry.render),
        (header? line).map some = none :=
      forall_mem_received fun x _ e => by rw [(x.received s.language e).1, Option.map_none]
    obtain ⟨hlanguage, hengines⟩ := ih (some s.language.toList)
      fun n => ending (n + (s.entries.map Entry.render).length + 1)
    simp only [List.flatMap_cons, Section.lines, List.cons_append, received, received_append,
      underHeaders] at hlanguage hengines ⊢
    rw [headed_cons_some (by rw [hheader, Option.map_some]), headed_append plain]
    constructor
    · intro line hline
      rcases List.mem_append.1 hline with hline | hline
      · simp at hline
      · exact hlanguage line hline
    · rw [List.filterMap_append, List.filterMap_map, hengines]
      have hentries : (received (fun n => ending (n + 1)) (s.entries.map Entry.render)).filterMap
          (Engine.engine? ∘ (some s.language.toList, ·)) = s.engines :=
        filterMap_received fun x _ e => (x.received s.language e).2
      exact congrArg (· ++ _) hentries

theorem Item.line_render (i : Item) : '\n' ∉ i.render.toList := by
  have hname : '\n' ∉ i.name.toList := fun hn => absurd (i.word.2 _ hn) (by decide)
  simp [render, hname, i.phrase.line]

/-- Nothing that is rendered breaks its line. -/
theorem Listing.line_of_mem (l : Listing) : ∀ line ∈ l.lines, '\n' ∉ line.toList := by
  intro line hline
  rcases List.mem_append.1 hline with hline | hline
  · obtain ⟨r, -, rfl⟩ := List.mem_map.1 hline
    exact r.line
  · obtain ⟨s, -, hline⟩ := List.mem_flatMap.1 hline
    rcases List.mem_cons.1 hline with rfl | hline
    · simp [Section.header, s.phrase.line]
    · obtain ⟨i | r, -, rfl⟩ := List.mem_map.1 hline
      · exact i.line_render
      · exact r.line

/-- What is written as a listing is read back: its engines in order, each with its language. -/
theorem readList_written (l : Listing) (ending : Nat → LineEnd) :
    readList (written ending l.lines) = .ok l.engines := by
  have hpreamble : ∀ line ∈ received ending (l.preamble.map Remark.text),
      header? line = none ∧ item? line = none :=
    forall_mem_received fun r _ e => r.received e
  obtain ⟨hlanguage, hengines⟩ := underHeaders_sections l.sections none
    fun n => ending (n + (l.preamble.map Remark.text).length)
  rw [readList, lines_written l.line_of_mem, Listing.lines, received_append,
    listFrom_remarks hpreamble, listFrom_eq_ok_iff]
  exact ⟨fun line hline => (hlanguage line hline).elim, hengines⟩

/-- Listings are read back as they were written, and a text is refused exactly if an item comes
before every header. -/
theorem readList_spec : (∀ (l : Listing) (ending : Nat → LineEnd),
      readList (written ending l.lines) = .ok l.engines) ∧
    ∀ output : String, (∃ e, readList output = .error e) ↔
      ∃ before line after, Text.lines output.toList = before ++ line :: after ∧ IsItem line ∧
        ∀ l ∈ before, ¬IsHeader l :=
  ⟨readList_written, fun _ => listFrom_eq_error_iff⟩

end Keyboards.Ibus
