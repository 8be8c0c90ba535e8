import Mathlib.Data.List.Basic

/-! Lines under headers: what a reader that goes from line to line keeps of the headers. -/

namespace Keyboards.Text

variable {α : Type} {header? : List Char → Option α} {start context : α} {line : List Char}
  {ls : List (List Char)}

/-- What the last header of the lines says, if there is one. -/
def heading (header? : List Char → Option α) (start : α) (ls : List (List Char)) : α :=
  (ls.filterMap header?).getLast?.getD start

/-- The lines that are no headers, each with what the header before it says. -/
def headed (header? : List Char → Option α) (start : α) :
    List (List Char) → List (α × List Char)
  | [] => []
  | line :: rest =>
    match header? line with
    | some next => headed header? next rest
    | none => (start, line) :: headed header? start rest

theorem heading_cons_some {next : α} (h : header? line = some next) :
    heading header? start (line :: ls) = heading header? next ls := by
  rw [heading, List.filterMap_cons_some h, List.getLast?_cons, Option.getD_some, heading]

theorem heading_cons_none (h : header? line = none) :
    heading header? start (line :: ls) = heading header? start ls := by
  rw [heading, List.filterMap_cons_none h, heading]

theorem headed_cons_some {next : α} (h : header? line = some next) :
    headed header? start (line :: ls) = headed header? next ls := by
  rw [headed, h]

theorem headed_cons_none (h : header? line = none) :
    headed header? start (line :: ls) = (start, line) :: headed header? start ls := by
  rw [headed, h]

/-- Lines that are no headers stand under the header before them. -/
theorem headed_append (h : ∀ line ∈ ls, header? line = none) (rest : List (List Char)) :
    headed header? start (ls ++ rest) = ls.map (start, ·) ++ headed header? start rest := by
  induction ls with
  | nil => rfl
  | cons line ls ih =>
    obtain ⟨hline, hls⟩ := List.forall_mem_cons.1 h
    rw [List.cons_append, headed_cons_none hline, ih hls]
    rfl

/-- A line stands under the last header of those before it. -/
theorem mem_headed : (context, line) ∈ headed header? start ls ↔ header? line = none ∧
    ∃ before after, ls = before ++ line :: after ∧ heading header? start before = context := by
  induction ls generalizing start with
  | nil => simp [headed]
  | cons first ls ih =>
    cases hfirst : header? first with
    | some next =>
      rw [headed_cons_some hfirst, ih]
      refine and_congr_right fun hline => ⟨?_, ?_⟩
      · rintro ⟨before, after, rfl, hcontext⟩
        exact ⟨first :: before, after, rfl, (heading_cons_some hfirst).trans hcontext⟩
      · rintro ⟨before, after, hls, hcontext⟩
        rcases List.cons_eq_append_iff.1 hls with ⟨rfl, hline'⟩ | ⟨before, rfl, rfl⟩
        · obtain ⟨rfl, -⟩ := List.cons.inj hline'
          cases hfirst.symm.trans hline
        · exact ⟨before, after, rfl, (heading_cons_some hfirst).symm.trans hcontext⟩
    | none =>
      rw [headed_cons_none hfirst, List.mem_cons, ih, Prod.mk.injEq]
      constructor
      · rintro (⟨rfl, rfl⟩ | ⟨hline, before, after, rfl, hcontext⟩)
        · exact ⟨hfirst, [], ls, rfl, rfl⟩
        · exact ⟨hline, first :: before, after, rfl, (heading_cons_none hfirst).trans hcontext⟩
      · rintro ⟨hline, before, after, hls, hcontext⟩
        rcases List.cons_eq_append_iff.1 hls with ⟨rfl, hline'⟩ | ⟨before, rfl, rfl⟩
        · exact .inl ⟨hcontext.symm, (List.cons.inj hline').1⟩
        · exact .inr ⟨hline, before, after, rfl, (heading_cons_none hfirst).symm.trans hcontext⟩

/-- What a reader has is said by a header with none behind it, or else is what it started with. -/
theorem heading_eq_iff {a : α} : heading header? start ls = a ↔
    (∃ before head between, ls = before ++ head :: between ∧ header? head = some a ∧
      ∀ line ∈ between, header? line = none) ∨
    start = a ∧ ∀ line ∈ ls, header? line = none := by
  induction ls generalizing start with
  | nil => simp [heading]
  | cons first ls ih =>
    cases hfirst : header? first with
    | some next =>
      rw [heading_cons_some hfirst, ih]
      constructor
      · rintro (⟨before, head, between, rfl, h⟩ | ⟨rfl, plain⟩)
        · exact .inl ⟨first :: before, head, between, rfl, h⟩
        · exact .inl ⟨[], first, ls, rfl, hfirst, plain⟩
      · rintro (⟨before, head, between, hls, hhead, plain⟩ | ⟨-, plain⟩)
        · rcases List.cons_eq_append_iff.1 hls with ⟨rfl, hcons⟩ | ⟨before, rfl, rfl⟩
          · obtain ⟨rfl, rfl⟩ := List.cons.inj hcons
            exact .inr ⟨Option.some.inj (hfirst.symm.trans hhead), plain⟩
          · exact .inl ⟨before, head, between, rfl, hhead, plain⟩
        · cases hfirst.symm.trans (plain first (.head _))
    | none =>
      rw [heading_cons_none hfirst, ih]
      constructor
      · rintro (⟨before, head, between, rfl, h⟩ | ⟨rfl, plain⟩)
        · exact .inl ⟨first :: before, head, between, rfl, h⟩
        · exact .inr ⟨rfl, List.forall_mem_cons.2 ⟨hfirst, plain⟩⟩
      · rintro (⟨before, head, between, hls, hhead, plain⟩ | ⟨hstart, plain⟩)
        · rcases List.cons_eq_append_iff.1 hls with ⟨rfl, hcons⟩ | ⟨before, rfl, rfl⟩
          · obtain ⟨rfl, -⟩ := List.cons.inj hcons
            cases hfirst.symm.trans hhead
          · exact .inl ⟨before, head, between, rfl, hhead, plain⟩
        · exact .inr ⟨hstart, (List.forall_mem_cons.1 plain).2⟩

/-- A line stands under a header if neither it nor a line between them is one. -/
def Under (header? : List Char → Option α) (ls : List (List Char)) (head line : List Char) : Prop :=
  ∃ before between after, ls = before ++ head :: (between ++ line :: after) ∧
    header? line = none ∧ ∀ l ∈ between, header? l = none

theorem Under.mem {head : List Char} (h : Under header? ls head line) : line ∈ ls := by
  obtain ⟨before, between, after, rfl, -⟩ := h
  simp

/-- What is not there from the start is said by the header that the line stands under. -/
theorem mem_headed_of_ne (h : context ≠ start) : (context, line) ∈ headed header? start ls ↔
    ∃ head, header? head = some context ∧ Under header? ls head line := by
  simp only [mem_headed, heading_eq_iff, h.symm, false_and, or_false]
  constructor
  · rintro ⟨hline, -, after, rfl, before, head, between, rfl, hhead, plain⟩
    exact ⟨head, hhead, before, between, after, by simp, hline, plain⟩
  · rintro ⟨head, hhead, before, between, after, rfl, hline, plain⟩
    exact ⟨hline, before ++ head :: between, after, by simp, before, head, between, rfl, hhead,
      plain⟩

/-- A reader that starts with nothing has nothing as long as there is no header. -/
theorem heading_eq_none : heading (fun line => (header? line).map some) none ls = none ↔
    ∀ line ∈ ls, header? line = none := by
  simp [heading_eq_iff]

end Keyboards.Text
