import Keyboards.Proofs.Text.Lines

/-! Lines that are written with one end or another, and what a reader gets of them. -/

namespace Keyboards.Text

/-- How a line ends. -/
inductive LineEnd where
  | lf
  | crlf
deriving DecidableEq, Repr

def LineEnd.text : LineEnd → String
  | lf => "\n"
  | crlf => "\r\n"

/-- A text of lines, of which the `n`-th one ends as `ending n` says. -/
def written (ending : Nat → LineEnd) : List String → String
  | [] => ""
  | line :: rest => line ++ (ending 0).text ++ written (fun n => ending (n + 1)) rest

/-- What a reader of lines gets of a line. A return before a mere line feed counts to the end. -/
def LineEnd.received : LineEnd → List Char → List Char
  | lf, line => dropReturn line
  | crlf, line => line

/-- What a reader gets of the lines of a text. -/
def received (ending : Nat → LineEnd) : List String → List (List Char)
  | [] => []
  | line :: rest => (ending 0).received line.toList :: received (fun n => ending (n + 1)) rest

variable {ending : Nat → LineEnd} {ls ms : List String} {α β : Type} {xs : List α}

theorem lines_written (h : ∀ l ∈ ls, '\n' ∉ l.toList) :
    lines (written ending ls).toList = received ending ls := by
  induction ls generalizing ending with
  | nil => rfl
  | cons l ls ih =>
    obtain ⟨hl, hls⟩ := List.forall_mem_cons.1 h
    rw [written, received, ← ih hls]
    cases ending 0 with
    | lf =>
      have htext : (l ++ LineEnd.lf.text ++ written (fun n => ending (n + 1)) ls).toList =
          l.toList ++ '\n' :: (written (fun n => ending (n + 1)) ls).toList := by
        simp [LineEnd.text]
      rw [htext, lines_append hl]
      rfl
    | crlf =>
      have htext : (l ++ LineEnd.crlf.text ++ written (fun n => ending (n + 1)) ls).toList =
          (l.toList ++ ['\r']) ++ '\n' :: (written (fun n => ending (n + 1)) ls).toList := by
        simp [LineEnd.text]
      rw [htext, lines_append (by simpa using hl), dropReturn_return]
      rfl

theorem received_append (ending : Nat → LineEnd) (ls ms : List String) :
    received ending (ls ++ ms) =
      received ending ls ++ received (fun n => ending (n + ls.length)) ms := by
  induction ls generalizing ending with
  | nil => rfl
  | cons l ls ih =>
    rw [List.cons_append, received, received, ih, List.cons_append]
    rfl

/-- What is known of every line, however it ends, is known of all that a reader gets. -/
theorem forall_mem_received {P : List Char → Prop} {line : α → String}
    (h : ∀ x ∈ xs, ∀ e : LineEnd, P (e.received (line x).toList)) :
    ∀ l ∈ received ending (xs.map line), P l := by
  induction xs generalizing ending with
  | nil => nofun
  | cons x xs ih =>
    obtain ⟨hx, hxs⟩ := List.forall_mem_cons.1 h
    exact List.forall_mem_cons.2 ⟨hx _, ih hxs⟩

theorem filterMap_received {f : List Char → Option β} {g : α → Option β} {line : α → String}
    (h : ∀ x ∈ xs, ∀ e : LineEnd, f (e.received (line x).toList) = g x) :
    (received ending (xs.map line)).filterMap f = xs.filterMap g := by
  induction xs generalizing ending with
  | nil => rfl
  | cons x xs ih =>
    obtain ⟨hx, hxs⟩ := List.forall_mem_cons.1 h
    rw [List.map_cons, received, List.filterMap_cons, List.filterMap_cons, hx, ih hxs]

namespace LineEnd

variable {front line : List Char}

/-- A line that ends in visible text is received as it is. -/
theorem received_of_visible (e : LineEnd) (h : line.getLast? ≠ some '\r') :
    e.received line = line := by
  cases e with
  | lf => exact dropReturn_of_ne h
  | crlf => rfl

theorem received_prefix (e : LineEnd) (line : List Char) : e.received line <+: line := by
  cases e with
  | lf =>
    change dropReturn line <+: line
    rw [dropReturn]
    split
    · exact List.dropLast_prefix line
    · exact List.prefix_rfl
  | crlf => exact List.prefix_rfl

theorem received_append (e : LineEnd) (h : front.getLast? ≠ some '\r') (line : List Char) :
    e.received (front ++ line) = front ++ e.received line := by
  cases e with
  | lf => exact dropReturn_append h line
  | crlf => rfl

theorem trimChars_received (e : LineEnd) (line : List Char) :
    trimChars (e.received line) = trimChars line := by
  cases e with
  | lf => exact trimChars_dropReturn line
  | crlf => rfl

end LineEnd

end Keyboards.Text
