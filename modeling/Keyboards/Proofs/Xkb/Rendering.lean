import Keyboards.Proofs.Text.Written
import Keyboards.Proofs.Xkb.Listing

/-! Rules lists as they are written, and what is read from them. -/

namespace Keyboards.Xkb

open Text

theorem IsWord.toList_ne_nil {s : String} (h : IsWord s) : s.toList ≠ [] := by
  simpa [String.toList_eq_nil_iff] using h.1

namespace Rules

/-- A description: not empty, on one line, and without white space at its ends. -/
structure IsPhrase (s : String) : Prop where
  nonempty : s ≠ ""
  trimmed : Trimmed s.toList
  line : '\n' ∉ s.toList

/-- A line of a block of layouts. -/
structure LayoutItem where
  code : String
  description : String
  word : IsWord code
  phrase : IsPhrase description

/-- A line of a block of variants. -/
structure VariantItem where
  variant : String
  code : String
  description : String
  word : IsWord variant
  codeWord : IsWord code
  noColon : ':' ∉ code.toList
  phrase : IsPhrase description

/-- A line that is no header. -/
structure Remark where
  text : String
  line : '\n' ∉ text.toList
  plain : text.toList.head? ≠ some '!'

/-- The title of a block that is neither of layouts nor of variants. -/
structure Title where
  text : String
  line : '\n' ∉ text.toList
  other : trim text ≠ "layout" ∧ trim text ≠ "variant"

/-- A block with its header. -/
inductive Section where
  | layouts (items : List LayoutItem)
  | variants (items : List VariantItem)
  | other (title : Title) (remarks : List Remark)

/-- A rules list: remarks and then blocks in any order. -/
structure Document where
  preamble : List Remark
  sections : List Section

def LayoutItem.render (i : LayoutItem) : String := "  " ++ i.code ++ "  " ++ i.description

def VariantItem.render (i : VariantItem) : String :=
  "  " ++ i.variant ++ "  " ++ i.code ++ ": " ++ i.description

def LayoutItem.layout (i : LayoutItem) : Layout := ⟨i.code, none, i.description⟩

def VariantItem.layout (i : VariantItem) : Layout := ⟨i.code, some i.variant, i.description⟩

namespace Section

def block : Section → Block
  | layouts _ => .layouts
  | variants _ => .variants
  | other .. => .other

def header : Section → String
  | layouts _ => "! layout"
  | variants _ => "! variant"
  | other title _ => "!" ++ title.text

/-- The lines behind the header. -/
def body : Section → List String
  | layouts items => items.map LayoutItem.render
  | variants items => items.map VariantItem.render
  | other _ remarks => remarks.map Remark.text

/-- What a block has to tell. -/
def listed : Section → List Layout
  | layouts items => items.map LayoutItem.layout
  | variants items => items.map VariantItem.layout
  | other .. => []

end Section

namespace Document

def lines (d : Document) : List String :=
  d.preamble.map Remark.text ++ d.sections.flatMap fun s => s.header :: s.body

def listed (d : Document) : List Layout := d.sections.flatMap Section.listed

end Document

section

variable {name code gap indent description : List Char}

/-- White space that is there. -/
structure IsGap (gap : List Char) : Prop where
  nonempty : gap ≠ []
  blank : ∀ c ∈ gap, isBlank c = true

/-- An indented word and a phrase between white space are read as that. -/
theorem item?_append {tail : List Char} (hindent : IsGap indent)
    (solid : ∀ c ∈ name, isBlank c = false) (named : name ≠ []) (hgap : IsGap gap)
    (trimmed : Trimmed description) (described : description ≠ [])
    (htail : tail.all isBlank = true) :
    item? (indent ++ (name ++ (gap ++ (description ++ tail)))) = some (name, description) := by
  obtain ⟨b, gap, rfl⟩ := List.exists_cons_of_ne_nil hgap.nonempty
  have behind : Behind 1 (b :: gap ++ (description ++ tail)) description :=
    .text (List.all_eq_true.2 hgap.blank) (by simp) trimmed described htail
  refine item?_eq_some_iff.2 ⟨_, ⟨indent, hindent.nonempty, List.all_eq_true.2 hindent.blank, named,
    solid, ?_, rfl⟩, behind⟩
  rintro c ⟨⟩
  exact hgap.blank b (.head _)

theorem variantOf?_append (solid : ∀ c ∈ code, isBlank c = false) (coded : code ≠ [])
    (noColon : ':' ∉ code) (hgap : ∀ c ∈ gap, isBlank c = true) (trimmed : Trimmed description)
    (described : description ≠ []) :
    variantOf? (code ++ ':' :: (gap ++ description)) = some (code, description) := by
  have hgap : gap.all isBlank = true := List.all_eq_true.2 hgap
  rw [variantOf?_cut solid coded noColon, trimStart, dropWhile_blanks hgap trimmed.head,
    if_neg (by simpa using described)]

end

theorem isGap_space : IsGap " ".toList := ⟨by decide, List.all_eq_true.1 rfl⟩

theorem isGap_spaces : IsGap "  ".toList := ⟨by decide, List.all_eq_true.1 rfl⟩

theorem IsPhrase.toList_ne_nil {s : String} (h : IsPhrase s) : s.toList ≠ [] := by
  simpa [String.toList_eq_nil_iff] using h.nonempty

theorem IsPhrase.behind {n : Nat} {s : String} {gap : List Char} (h : IsPhrase s)
    (blank : gap.all isBlank = true) (enough : n ≤ gap.length) :
    Behind n (gap ++ s.toList) s.toList := by
  simpa using Behind.text blank enough h.trimmed h.toList_ne_nil (List.all_nil (f := isBlank))

/-- A line that ends in a phrase is received as it is. -/
theorem IsPhrase.received {s : String} (h : IsPhrase s) (e : LineEnd) (front : List Char) :
    e.received (front ++ s.toList) = front ++ s.toList := by
  refine e.received_of_visible fun hlast => ?_
  rw [List.getLast?_append, Option.or_eq_some_iff] at hlast
  rcases hlast with hlast | ⟨hnone, -⟩
  · exact absurd (h.trimmed.last _ hlast) (by decide)
  · exact h.toList_ne_nil (List.getLast?_eq_none_iff.1 hnone)

theorem LayoutItem.layout?_received (i : LayoutItem) (e : LineEnd) :
    header? (e.received i.render.toList) = none ∧
      layout? .layouts (e.received i.render.toList) = some i.layout := by
  have hline : i.render.toList = "  ".toList ++ (i.code.toList ++ ("  ".toList ++
      i.description.toList)) := by
    simp only [render, String.toList_append, List.append_assoc]
  have hreceived : e.received i.render.toList = i.render.toList := by
    rw [hline]
    simpa only [List.append_assoc] using
      i.phrase.received e ("  ".toList ++ i.code.toList ++ "  ".toList)
  rw [hreceived, hline]
  refine ⟨rfl, ?_⟩
  rw [← List.append_nil i.description.toList, layout?, item?_append isGap_spaces i.word.2
    i.word.toList_ne_nil isGap_spaces i.phrase.trimmed i.phrase.toList_ne_nil rfl]
  simp [layout]

theorem VariantItem.layout?_received (i : VariantItem) (e : LineEnd) :
    header? (e.received i.render.toList) = none ∧
      layout? .variants (e.received i.render.toList) = some i.layout := by
  have hline : i.render.toList = "  ".toList ++ (i.variant.toList ++ ("  ".toList ++
      (i.code.toList ++ ':' :: (" ".toList ++ i.description.toList)))) := by
    simp [render]
  have hreceived : e.received i.render.toList = i.render.toList := by
    have hfront : i.render.toList = ("  ".toList ++ i.variant.toList ++ "  ".toList ++
        i.code.toList ++ ": ".toList) ++ i.description.toList := by
      simp [render]
    rw [hfront, i.phrase.received e]
  -- code and description are one phrase to the item, and are told apart behind it
  have trimmed : Trimmed (i.code.toList ++ ':' :: (" ".toList ++ i.description.toList)) :=
    Trimmed.around (.of_solid i.codeWord.2) i.codeWord.toList_ne_nil i.phrase.trimmed
      i.phrase.toList_ne_nil ": ".toList
  rw [hreceived, hline]
  refine ⟨rfl, ?_⟩
  rw [← List.append_nil (i.code.toList ++ _), layout?, item?_append isGap_spaces i.word.2
    i.word.toList_ne_nil isGap_spaces trimmed (by simp) rfl]
  simp only [Option.bind_eq_bind, Option.bind_some, variantOf?_append i.codeWord.2
    i.codeWord.toList_ne_nil i.noColon isGap_space.blank i.phrase.trimmed i.phrase.toList_ne_nil]
  simp [layout]

theorem header?_eq_none {line : List Char} (h : line.head? ≠ some '!') : header? line = none := by
  unfold header?
  split
  next => exact (h rfl).elim
  next => rfl

/-- A remark is no header, however it ends. -/
theorem Remark.header?_received (r : Remark) (e : LineEnd) :
    header? (e.received r.text.toList) = none := by
  refine header?_eq_none fun hhead => r.plain ?_
  obtain ⟨tail, htail⟩ := e.received_prefix r.text.toList
  rw [← htail, List.head?_append, hhead]
  rfl

theorem Section.header?_received (s : Section) (e : LineEnd) :
    header? (e.received s.header.toList) = some s.block := by
  cases s with
  | layouts items =>
    change header? (e.received "! layout".toList) = some .layouts
    cases e <;> decide +kernel
  | variants items =>
    change header? (e.received "! variant".toList) = some .variants
    cases e <;> decide +kernel
  | other title remarks =>
    have hline : (Section.other title remarks).header.toList = '!' :: title.text.toList := by
      simp [Section.header]
    have hmark : ['!'].getLast? ≠ some '\r' := by decide
    have hreceived : e.received ('!' :: title.text.toList) = '!' :: e.received title.text.toList :=
      e.received_append hmark _
    have htitle : String.ofList (trimChars (e.received title.text.toList)) = trim title.text := by
      rw [e.trimChars_received, trim]
    rw [hline, hreceived, header?, htitle]
    split
    next h => exact absurd h title.other.1
    next h => exact absurd h title.other.2
    next => rfl

/-- Behind its header a block has no other header, and tells what is listed. -/
theorem Section.body_received (s : Section) (ending : Nat → LineEnd) :
    (∀ line ∈ received ending s.body, header? line = none) ∧
      (received ending s.body).filterMap (layout? s.block) = s.listed := by
  cases s with
  | layouts items =>
    refine ⟨forall_mem_received fun i _ e => (i.layout?_received e).1, ?_⟩
    rw [body, filterMap_received fun i _ e => (i.layout?_received e).2, List.filterMap_eq_map']
    rfl
  | variants items =>
    refine ⟨forall_mem_received fun i _ e => (i.layout?_received e).1, ?_⟩
    rw [body, filterMap_received fun i _ e => (i.layout?_received e).2, List.filterMap_eq_map']
    rfl
  | other title remarks =>
    refine ⟨forall_mem_received fun r _ e => r.header?_received e, ?_⟩
    exact List.filterMap_eq_nil_iff.2 fun _ _ => rfl

/-- Lines that are no headers belong to the block before them. -/
theorem layoutsFrom_append {block : Block} {ls : List (List Char)} (rest : List (List Char))
    (h : ∀ line ∈ ls, header? line = none) :
    layoutsFrom block (ls ++ rest) = ls.filterMap (layout? block) ++ layoutsFrom block rest := by
  rw [layoutsFrom_eq_filterMap, layoutsFrom_eq_filterMap, headed_append h, List.filterMap_append,
    List.filterMap_map]
  rfl

theorem any_header?_eq_false {ls : List (List Char)} (h : ∀ line ∈ ls, header? line = none) :
    ls.any (header? · = some .layouts) = false := by
  rw [List.any_eq_false]
  intro line hline
  simp [h line hline]

theorem layoutsFrom_sections (sections : List Section) (block : Block) (ending : Nat → LineEnd) :
    let ls := received ending (sections.flatMap fun s => s.header :: s.body)
    layoutsFrom block ls = sections.flatMap Section.listed ∧
      ls.any (header? · = some .layouts) = sections.any (·.block = .layouts) := by
  -- the header of a block replaces the block before it, so `block` does not matter
  induction sections generalizing block ending with
  | nil => exact ⟨rfl, rfl⟩
  | cons s sections ih =>
    obtain ⟨plain, hlisted⟩ := s.body_received fun n => ending (n + 1)
    have hheader := s.header?_received (ending 0)
    simp only [List.flatMap_cons, List.cons_append, received, received_append]
    obtain ⟨hrest, hany⟩ := ih s.block fun n => ending (n + s.body.length + 1)
    constructor
    · rw [layoutsFrom, hheader]
      dsimp only
      rw [layoutsFrom_append _ plain, hlisted, hrest]
    · rw [List.any_cons, List.any_append, hheader, any_header?_eq_false plain, hany, List.any_cons]
      simp

theorem LayoutItem.line_render (i : LayoutItem) : '\n' ∉ i.render.toList := by
  have hcode : '\n' ∉ i.code.toList := fun hn => absurd (i.word.2 _ hn) (by decide)
  simp [render, hcode, i.phrase.line]

theorem VariantItem.line_render (i : VariantItem) : '\n' ∉ i.render.toList := by
  have hvariant : '\n' ∉ i.variant.toList := fun hn => absurd (i.word.2 _ hn) (by decide)
  have hcode : '\n' ∉ i.code.toList := fun hn => absurd (i.codeWord.2 _ hn) (by decide)
  simp [render, hvariant, hcode, i.phrase.line]

theorem Section.line_of_mem (s : Section) : ∀ l ∈ s.header :: s.body, '\n' ∉ l.toList := by
  cases s with
  | layouts items =>
    refine List.forall_mem_cons.2 ⟨by simp [header], fun l hl => ?_⟩
    obtain ⟨i, -, rfl⟩ := List.mem_map.1 hl
    exact i.line_render
  | variants items =>
    refine List.forall_mem_cons.2 ⟨by simp [header], fun l hl => ?_⟩
    obtain ⟨i, -, rfl⟩ := List.mem_map.1 hl
    exact i.line_render
  | other title remarks =>
    refine List.forall_mem_cons.2 ⟨by simp [header, title.line], fun l hl => ?_⟩
    obtain ⟨r, -, rfl⟩ := List.mem_map.1 hl
    exact r.line

/-- Nothing that is rendered breaks its line. -/
theorem Document.line_of_mem (d : Document) : ∀ l ∈ d.lines, '\n' ∉ l.toList := by
  intro l hl
  rcases List.mem_append.1 hl with hl | hl
  · obtain ⟨r, -, rfl⟩ := List.mem_map.1 hl
    exact r.line
  · obtain ⟨s, -, hl⟩ := List.mem_flatMap.1 hl
    exact s.line_of_mem l hl

/-- What is written as a rules list is read back: exactly what its blocks list, in order, if there
is a block of layouts. -/
theorem read_written (d : Document) (ending : Nat → LineEnd) :
    read (written ending d.lines) =
      if d.sections.any (·.block = .layouts) then .ok d.listed
      else .error (.unexpectedOutput "rules list has no \x60! layout\x60 section") := by
  have plain : ∀ line ∈ received ending (d.preamble.map Remark.text), header? line = none :=
    forall_mem_received fun r _ e => r.header?_received e
  have hreceived : Text.lines (written ending d.lines).toList =
      received ending (d.preamble.map Remark.text) ++
        received (fun n => ending (n + (d.preamble.map Remark.text).length))
          (d.sections.flatMap fun s => s.header :: s.body) := by
    rw [lines_written d.line_of_mem, Document.lines, received_append]
  obtain ⟨hlisted, hany⟩ := layoutsFrom_sections d.sections .other
    fun n => ending (n + (d.preamble.map Remark.text).length)
  have hpreamble : (received ending (d.preamble.map Remark.text)).filterMap (layout? .other) = [] :=
    List.filterMap_eq_nil_iff.2 fun _ _ => rfl
  simp only [read, hreceived, List.any_append, any_header?_eq_false plain, hany,
    layoutsFrom_append _ plain, hpreamble, hlisted, Bool.false_or, List.nil_append]
  rfl

end Rules

end Keyboards.Xkb
