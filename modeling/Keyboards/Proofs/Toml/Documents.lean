import Mathlib.Data.List.Nodup
import Keyboards.Proofs.Toml.Quoting
import Keyboards.Toml.Document
import Keyboards.Toml.Writer

/-! A document that is written is read back as it was, but for entries without a value. -/

namespace Keyboards.Toml

variable {c : Char} {cs rest : List Char} {d : Data} {ds : List Data} {depth fuel : Nat}
  {k : String} {e : String × Data}

section Values

/-- A value without parts. -/
inductive IsScalar : Data → Prop where
  | text (s : String) : IsScalar (.text s)
  | bool (b : Bool) : IsScalar (.bool b)

/-- A value for one entry. -/
inductive IsEntryValue : Data → Prop where
  | scalar {d : Data} (scalar : IsScalar d) : IsEntryValue d
  | list {ds : List Data} (scalars : ∀ d ∈ ds, IsScalar d) : IsEntryValue (.list ds)

/-- What stands behind a written value. -/
def EndsValue (rest : List Char) : Prop :=
  ∃ c tail, rest = c :: tail ∧ (c = '\n' ∨ c = ',' ∨ c = ']')

/-- A character with which a written value begins. -/
def IsValueStart (c : Char) : Prop := c = '"' ∨ c = '\'' ∨ c = 't' ∨ c = 'f'

theorem EndsValue.unquoted (h : EndsValue rest) : Unquoted rest := by
  obtain ⟨c, tail, rfl, rfl | rfl | rfl⟩ := h
  all_goals exact ⟨by simp, by simp⟩

theorem quote_eq (s : String) : (quote s).toList = (traits s.toList).form.write s.toList := by
  simp [quote]

theorem write_cons (f : Form) (cs : List Char) :
    ∃ c tail, f.write cs = c :: tail ∧ (c = '"' ∨ c = '\'') := by
  cases f with
  | basic | multilineBasic => exact ⟨'"', _, rfl, .inl rfl⟩
  | literal | multilineLiteral => exact ⟨'\'', _, rfl, .inr rfl⟩

theorem exists_writeScalar_cons (h : IsScalar d) :
    ∃ c tail, (writeScalar d).toList = c :: tail ∧ IsValueStart c := by
  cases h with
  | text s =>
    obtain ⟨c, tail, htail, hc⟩ := write_cons (traits s.toList).form s.toList
    exact ⟨c, tail, (quote_eq s).trans htail, hc.imp_right .inl⟩
  | bool b =>
    cases b with
    | true => exact ⟨'t', _, rfl, .inr (.inr (.inl rfl))⟩
    | false => exact ⟨'f', _, rfl, .inr (.inr (.inr rfl))⟩

theorem value?_quote (s : String) (hrest : EndsValue rest) :
    value? depth (fuel + 1) ((quote s).toList ++ rest) = some (.text s, rest) := by
  have hread : string? ((quote s).toList ++ rest) = some (s.toList, rest) := by
    rw [quote_eq]
    exact string?_write (form_holds _) hrest.unquoted
  obtain ⟨c, tail, htail, hc⟩ := write_cons (traits s.toList).form s.toList
  rw [quote_eq, htail] at hread ⊢
  rcases hc with rfl | rfl
  all_goals
    rw [List.cons_append] at hread ⊢
    rw [value?, hread]
    simp

/-- A word is read up to something that cannot belong to it. -/
theorem scalarValue?_word {w : List Char} (hall : w.all isWordChar = true)
    (hdate : date? w = none) (hword : word? w = some d) (hrest : EndsValue rest) :
    scalarValue? (w ++ rest) = some (d, rest) := by
  have hw : ∀ c ∈ w, isWordChar c = true := List.all_eq_true.1 hall
  have hsplit : (w ++ rest).takeWhile isWordChar = w ∧
      (w ++ rest).dropWhile isWordChar = rest := by
    rw [List.takeWhile_append_of_pos hw, List.dropWhile_append_of_pos hw]
    obtain ⟨c, tail, rfl, rfl | rfl | rfl⟩ := hrest
    all_goals exact ⟨List.append_nil w, rfl⟩
  rw [scalarValue?]
  simp only [hsplit, hdate, hword, Option.map_some]

theorem value?_writeScalar (h : IsScalar d) (hrest : EndsValue rest) :
    value? depth (fuel + 1) ((writeScalar d).toList ++ rest) = some (d, rest) := by
  cases h with
  | text s => exact value?_quote s hrest
  | bool b =>
    cases b with
    | true => exact scalarValue?_word (w := ['t', 'r', 'u', 'e']) rfl rfl rfl hrest
    | false => exact scalarValue?_word (w := ['f', 'a', 'l', 's', 'e']) rfl rfl rfl hrest

theorem skipTrivia_start (hc : IsValueStart c) : skipTrivia false (c :: cs) = c :: cs := by
  rcases hc with rfl | rfl | rfl | rfl
  all_goals rfl

theorem skipTrivia_writeScalar (h : IsScalar d) :
    skipTrivia false ((writeScalar d).toList ++ rest) = (writeScalar d).toList ++ rest := by
  obtain ⟨c, tail, htail, hc⟩ := exists_writeScalar_cons h
  rw [htail, List.cons_append]
  exact skipTrivia_start hc

/-- The step of the reader of lists at an item. -/
theorem items?_item (h : IsScalar d) (hcs : skipTrivia false cs = (writeScalar d).toList ++ rest)
    (hrest : EndsValue rest) : items? depth (fuel + 2) cs =
      match skipTrivia false rest with
      | ',' :: rest => (items? depth (fuel + 1) rest).map fun (ds, rest) => (d :: ds, rest)
      | ']' :: rest => some ([d], rest)
      | _ => none := by
  obtain ⟨c, tail, htail, hc⟩ := exists_writeScalar_cons h
  have hread : value? depth (fuel + 1) ((writeScalar d).toList ++ rest) = some (d, rest) :=
    value?_writeScalar h hrest
  rw [items?, hcs]
  rw [htail, List.cons_append] at hread ⊢
  split
  · rename_i he
    obtain ⟨rfl, -⟩ := List.cons.inj he
    rcases hc with hc | hc | hc | hc <;> cases hc
  · rw [hread]
    rfl

/-- An item on a line of its own. -/
def itemLine (d : Data) : List Char :=
  ' ' :: ' ' :: ' ' :: ' ' :: ((writeScalar d).toList ++ [',', '\n'])

theorem items?_lines (h : ∀ d ∈ ds, IsScalar d) (hfuel : ds.length < fuel) :
    items? depth (fuel + 1) ('\n' :: (ds.flatMap itemLine ++ ']' :: rest)) = some (ds, rest) := by
  induction ds generalizing fuel with
  | nil => rfl
  | cons d ds ih =>
    obtain ⟨hd, hds⟩ := List.forall_mem_cons.1 h
    obtain ⟨fuel, rfl⟩ := Nat.exists_eq_add_one.2 (Nat.zero_lt_of_lt hfuel)
    have hcs : skipTrivia false ('\n' :: ((d :: ds).flatMap itemLine ++ ']' :: rest)) =
        (writeScalar d).toList ++ ',' :: '\n' :: (ds.flatMap itemLine ++ ']' :: rest) := by
      have hskip : skipTrivia false
          ((writeScalar d).toList ++ ',' :: '\n' :: (ds.flatMap itemLine ++ ']' :: rest)) = _ :=
        skipTrivia_writeScalar hd
      simpa [itemLine, skipTrivia, isBlank] using hskip
    rw [items?_item hd hcs ⟨',', _, rfl, .inr (.inl rfl)⟩]
    change (items? depth (fuel + 1) ('\n' :: (ds.flatMap itemLine ++ ']' :: rest))).map _ = _
    rw [ih hds (by simpa using hfuel)]
    rfl

/-- What stands between the brackets of a list. -/
def itemsText : List Data → List Char
  | [] => []
  | [d] => (writeScalar d).toList
  | ds => '\n' :: ds.flatMap itemLine

theorem writeList_eq (ds : List Data) : (writeList ds).toList = '[' :: (itemsText ds ++ [']']) := by
  match ds with
  | [] => rfl
  | [d] => simp [writeList, itemsText]
  | d :: e :: ds =>
    have hline : ∀ d : Data, ("    " ++ writeScalar d ++ ",\n").toList = itemLine d := by
      intro d
      simp [itemLine]
    simp only [writeList, String.toList_append, String.toList_join, List.flatMap_map, hline]
    rfl

theorem length_le_lines (ds : List Data) : ds.length ≤ (ds.flatMap itemLine).length := by
  induction ds with
  | nil => exact Nat.le_refl 0
  | cons d ds ih =>
    simp only [List.flatMap_cons, List.length_append, List.length_cons, itemLine]
    omega

theorem value?_writeList (h : ∀ d ∈ ds, IsScalar d) (hfuel : (writeList ds).toList.length < fuel) :
    value? (depth + 1) fuel ((writeList ds).toList ++ rest) = some (.list ds, rest) := by
  obtain ⟨fuel, rfl⟩ := Nat.exists_eq_add_one.2 (Nat.zero_lt_of_lt hfuel)
  rw [writeList_eq] at hfuel
  have hitems : items? depth fuel (itemsText ds ++ ']' :: rest) = some (ds, rest) := by
    match ds with
    | [] =>
      obtain ⟨fuel, rfl⟩ := Nat.exists_eq_add_of_lt (Nat.lt_of_succ_lt_succ hfuel)
      rfl
    | [d] =>
      have hd := h d List.mem_cons_self
      obtain ⟨c, tail, htail, -⟩ := exists_writeScalar_cons hd
      have hlong : 2 ≤ fuel := by
        rw [itemsText, htail] at hfuel
        simp only [List.length_cons, List.length_append] at hfuel
        omega
      obtain ⟨fuel, rfl⟩ := Nat.exists_eq_add_of_le' hlong
      rw [itemsText, items?_item hd (skipTrivia_writeScalar hd) ⟨']', _, rfl, .inr (.inr rfl)⟩]
      rfl
    | d :: e :: ds =>
      have hlines := length_le_lines (d :: e :: ds)
      have hlong : 1 ≤ fuel ∧ (d :: e :: ds).length < fuel - 1 := by
        simp only [itemsText, List.length_cons, List.length_append, List.length_nil]
          at hfuel hlines ⊢
        omega
      obtain ⟨fuel, rfl⟩ := Nat.exists_eq_add_of_le' hlong.1
      exact items?_lines h hlong.2
  have htext : (writeList ds).toList ++ rest = '[' :: (itemsText ds ++ ']' :: rest) := by
    simp [writeList_eq]
  rw [htext, value?.eq_4, if_neg (Nat.succ_ne_zero depth), Nat.add_sub_cancel, hitems]
  rfl

/-- A value is read back up to its end. -/
theorem value?_writeValue (h : IsEntryValue d) (hrest : EndsValue rest)
    (hfuel : (writeValue d).toList.length < fuel) :
    value? (depth + 1) fuel ((writeValue d).toList ++ rest) = some (d, rest) := by
  cases h with
  | scalar scalar =>
    obtain ⟨fuel, rfl⟩ := Nat.exists_eq_add_one.2 (Nat.zero_lt_of_lt hfuel)
    have hsame : writeValue d = writeScalar d := by cases scalar <;> rfl
    rw [hsame]
    exact value?_writeScalar scalar hrest
  | list scalars => exact value?_writeList scalars hfuel

theorem skipBlanks_writeValue (h : IsEntryValue d) :
    skipBlanks ((writeValue d).toList ++ rest) = (writeValue d).toList ++ rest := by
  apply skipBlanks_of_head
  intro x hx
  cases h with
  | scalar scalar =>
    have hsame : writeValue d = writeScalar d := by cases scalar <;> rfl
    obtain ⟨c, tail, htail, hc⟩ := exists_writeScalar_cons scalar
    rw [hsame, htail] at hx
    cases hx
    rcases hc with rfl | rfl | rfl | rfl <;> rfl
  | list =>
    rw [writeValue, writeList_eq] at hx
    cases hx
    rfl

end Values

section Lines

/-- The text of entries. -/
def entriesText (es : List (String × Data)) : List Char := es.flatMap fun e => (writeEntry e).toList

theorem lineRest?_lineFeed (rest : List Char) : lineRest? ('\n' :: rest) = some rest := rfl

theorem writeEntry_eq (e : String × Data) (rest : List Char) : (writeEntry e).toList ++ rest =
    (quoteKey e.1).toList ++ ' ' :: '=' :: ' ' :: ((writeValue e.2).toList ++ '\n' :: rest) := by
  simp [writeEntry]

/-- No line of an entry looks like a header, a comment or a blank line. -/
theorem exists_writeEntry_cons (e : String × Data) (rest : List Char) :
    ∃ c tail, (writeEntry e).toList ++ rest = c :: tail ∧ IsKeyStart c := by
  obtain ⟨c, tail, htail, hc⟩ := exists_quoteKey_cons e.1
  exact ⟨c, tail ++ ' ' :: '=' :: ' ' :: ((writeValue e.2).toList ++ '\n' :: rest),
    by rw [writeEntry_eq, htail, List.cons_append], hc⟩

theorem statement?_writeEntry (h : IsEntryValue e.2) (rest : List Char) :
    statement? ((writeEntry e).toList ++ rest) = some (.assign [e.1] e.2, rest) := by
  have hkey : key? ((writeEntry e).toList ++ rest) =
      some ([e.1], '=' :: ' ' :: ((writeValue e.2).toList ++ '\n' :: rest)) := by
    rw [writeEntry_eq]
    refine key?_quoteKey ?_ ?_
    · rintro c ⟨⟩
      rfl
    · exact nofun
  have hvalue : value? maxDepth (((writeEntry e).toList ++ rest).length + 1)
      ((writeValue e.2).toList ++ '\n' :: rest) = some (e.2, '\n' :: rest) := by
    refine value?_writeValue h ⟨'\n', rest, rfl, .inl rfl⟩ ?_
    rw [writeEntry_eq]
    simp only [List.length_append, List.length_cons]
    omega
  have hskip : skipBlanks (' ' :: ((writeValue e.2).toList ++ '\n' :: rest)) =
      (writeValue e.2).toList ++ '\n' :: rest := skipBlanks_writeValue h
  have hheader : ∀ tail, (writeEntry e).toList ++ rest ≠ '[' :: tail := by
    intro tail he
    obtain ⟨c, tail', htail, hc⟩ := exists_writeEntry_cons e rest
    rw [htail] at he
    cases he
    rcases hc with hc | hc | hc <;> cases hc
  rw [statement?.eq_3 _ (fun _ => hheader _) hheader, hkey]
  simp only [Option.bind_eq_bind, Option.bind_some, hskip, hvalue, lineRest?_lineFeed,
    Option.map_some]

theorem statement?_header (k : String) (rest : List Char) :
    statement? ('[' :: ((quoteKey k).toList ++ ']' :: '\n' :: rest)) = some (.table [k], rest) := by
  have hkey : key? ((quoteKey k).toList ++ ']' :: '\n' :: rest) =
      some ([k], ']' :: '\n' :: rest) := by
    refine key?_quoteKey ?_ ?_
    · rintro c ⟨⟩
      rfl
    · exact nofun
  have hitem : ∀ tail, (quoteKey k).toList ++ ']' :: '\n' :: rest ≠ '[' :: tail := by
    intro tail he
    obtain ⟨c, tail', htail, hc⟩ := exists_quoteKey_cons k
    rw [htail] at he
    cases he
    rcases hc with hc | hc | hc <;> cases hc
  rw [statement?.eq_2 _ hitem, hkey]
  simp only [Option.bind_eq_bind, Option.bind_some, lineRest?_lineFeed, Option.map_some]

theorem statements?_cons {s : Statement} (hstart : IsKeyStart c ∨ c = '[')
    (h : statement? (c :: cs) = some (s, rest)) :
    statements? (fuel + 1) (c :: cs) = (statements? fuel rest).map (s :: ·) := by
  have hskip : skipBlanks (c :: cs) = c :: cs := by
    apply skipBlanks_of_head
    rintro _ ⟨⟩
    rcases hstart with hstart | rfl
    · exact hstart.not_isBlank
    · rfl
  rw [statements?, hskip]
  split
  · rename_i he
    cases he
  · rename_i he
    cases he
    rcases hstart with (hc | hc | hc) | hc <;> cases hc
  · rename_i he
    cases he
    rcases hstart with (hc | hc | hc) | hc <;> cases hc
  · rename_i he
    cases he
    rcases hstart with (hc | hc | hc) | hc <;> cases hc
  · rw [h]
    rfl

/-- What entries say. -/
def assigns (es : List (String × Data)) : List Statement := es.map fun e => .assign [e.1] e.2

/-- Tables with their entries, each under a header. -/
abbrev Sections := List (String × List (String × Data))

def sectionsText (xs : Sections) : List Char := xs.flatMap fun x =>
  '\n' :: '[' :: ((quoteKey x.1).toList ++ ']' :: '\n' :: entriesText x.2)

def headed (xs : Sections) : List Statement := xs.flatMap fun x => .table [x.1] :: assigns x.2

theorem statements?_entries {es : List (String × Data)} {later : List Statement}
    (h : ∀ e ∈ es, IsEntryValue e.2)
    (hlater : ∀ fuel, rest.length < fuel → statements? fuel rest = some later)
    (hfuel : (entriesText es ++ rest).length < fuel) :
    statements? fuel (entriesText es ++ rest) = some (assigns es ++ later) := by
  induction es generalizing fuel with
  | nil => exact hlater fuel hfuel
  | cons e es ih =>
    obtain ⟨he, hes⟩ := List.forall_mem_cons.1 h
    obtain ⟨fuel, rfl⟩ := Nat.exists_eq_add_one.2 (Nat.zero_lt_of_lt hfuel)
    have htext : entriesText (e :: es) ++ rest =
        (writeEntry e).toList ++ (entriesText es ++ rest) := by
      simp [entriesText]
    obtain ⟨c, tail, htail, hc⟩ := exists_writeEntry_cons e (entriesText es ++ rest)
    have hread := statement?_writeEntry he (entriesText es ++ rest)
    have hshorter : (entriesText es ++ rest).length < fuel := by
      have hlong := congrArg List.length htail
      have hmore := congrArg List.length (writeEntry_eq e (entriesText es ++ rest))
      simp only [htext, List.length_append, List.length_cons] at hfuel hlong hmore
      rw [List.length_append]
      omega
    rw [htail] at hread
    rw [htext, htail, statements?_cons (.inl hc) hread, ih hes hshorter]
    rfl

theorem statements?_sections {xs : Sections} (h : ∀ x ∈ xs, ∀ e ∈ x.2, IsEntryValue e.2)
    (hfuel : (sectionsText xs).length < fuel) :
    statements? fuel (sectionsText xs) = some (headed xs) := by
  induction xs generalizing fuel with
  | nil =>
    obtain ⟨fuel, rfl⟩ := Nat.exists_eq_add_one.2 (Nat.zero_lt_of_lt hfuel)
    rfl
  | cons x xs ih =>
    obtain ⟨hx, hxs⟩ := List.forall_mem_cons.1 h
    have htext : sectionsText (x :: xs) = '\n' :: '[' :: ((quoteKey x.1).toList ++
        ']' :: '\n' :: (entriesText x.2 ++ sectionsText xs)) := by
      simp [sectionsText]
    rw [htext] at hfuel ⊢
    simp only [List.length_cons, List.length_append] at hfuel
    obtain ⟨fuel, rfl⟩ := Nat.exists_eq_add_of_le' (show 2 ≤ fuel by omega)
    change statements? (fuel + 1) ('[' :: _) = _
    rw [statements?_cons (.inr rfl) (statement?_header x.1 _),
      statements?_entries hx (fun _ hlater => ih hxs hlater) (by rw [List.length_append]; omega)]
    rfl

end Lines

section Tables

variable {es inner : Entries} {here : List String} {more : List Statement}

/-- Entries with their values. -/
def leaves (es : List (String × Data)) : Entries := es.map fun e => (e.1, .value e.2)

/-- Tables under headers with their entries. -/
def branches (xs : Sections) : Entries := xs.map fun x => (x.1, .table .header (leaves x.2))

theorem names_leaves (es : List (String × Data)) : (leaves es).map Prod.fst = es.map Prod.fst := by
  simp [leaves]

theorem lookup_fresh (h : k ∉ es.map Prod.fst) : es.lookup k = none := by
  rw [List.lookup_eq_none_iff]
  intro e he
  rw [bne_iff_ne]
  rintro rfl
  exact h (List.mem_map_of_mem he)

theorem lookup_last (h : k ∉ es.map Prod.fst) (n : Node) : (es ++ [(k, n)]).lookup k = some n := by
  rw [List.lookup_append, lookup_fresh h, Option.none_or, List.lookup_cons_self]

theorem replace_last (h : k ∉ es.map Prod.fst) (n n' : Node) :
    Entries.replace k n' (es ++ [(k, n)]) = es ++ [(k, n')] := by
  have hkeep : ∀ e ∈ es, (if e.1 = k then (k, n') else e) = id e := by
    intro e he
    rw [if_neg]
    · rfl
    · rintro rfl
      exact h (List.mem_map_of_mem he)
  rw [Entries.replace, List.map_append, List.map_congr_left hkeep, List.map_id]
  simp

theorem assign_fresh (h : k ∉ es.map Prod.fst) (d : Data) :
    assign [k] d es = some (es ++ [(k, .value d)]) := by
  have hput : put k (.value d) es = some (es ++ [(k, .value d)]) := by
    rw [put, lookup_fresh h]
  exact hput

/-- Names that were not given before come to the others one by one. -/
theorem nodup_snoc {names more : List String} (nodup : (names ++ k :: more).Nodup) :
    k ∉ names ∧ ((names ++ [k]) ++ more).Nodup := by
  rw [List.append_assoc, List.singleton_append]
  refine ⟨fun hk => ?_, nodup⟩
  exact List.disjoint_of_nodup_append nodup hk List.mem_cons_self

theorem build?_top {xs : List (String × Data)}
    (nodup : (es.map Prod.fst ++ xs.map Prod.fst).Nodup) :
    build? [] es (assigns xs ++ more) = build? [] (es ++ leaves xs) more := by
  induction xs generalizing es with
  | nil => simp [assigns, leaves]
  | cons x xs ih =>
    obtain ⟨hx, hrest⟩ := nodup_snoc nodup
    have hstep : build? [] es (assigns (x :: xs) ++ more) =
        (assign [x.1] x.2 es).bind fun es => build? [] es (assigns xs ++ more) := rfl
    rw [hstep, assign_fresh hx, Option.bind_some, ih (by simpa using hrest)]
    simp [leaves]

theorem build?_inner {xs : List (String × Data)} (hk : k ∉ es.map Prod.fst)
    (nodup : (inner.map Prod.fst ++ xs.map Prod.fst).Nodup) :
    build? [k] (es ++ [(k, .table .header inner)]) (assigns xs ++ more) =
      build? [k] (es ++ [(k, .table .header (inner ++ leaves xs))]) more := by
  induction xs generalizing inner with
  | nil => simp [assigns, leaves]
  | cons x xs ih =>
    obtain ⟨hx, hrest⟩ := nodup_snoc nodup
    have hat : atPath false (fun _ es => assign [x.1] x.2 es) [k] .header
        (es ++ [(k, .table .header inner)]) =
          some (es ++ [(k, .table .header (inner ++ [(x.1, .value x.2)]))]) := by
      rw [atPath, lookup_last hk]
      simp [atPath, assign_fresh hx, replace_last hk]
    have hstep : build? [k] (es ++ [(k, .table .header inner)]) (assigns (x :: xs) ++ more) =
        (atPath false (fun _ es => assign [x.1] x.2 es) [k] .header
          (es ++ [(k, .table .header inner)])).bind fun es =>
            build? [k] es (assigns xs ++ more) := rfl
    rw [hstep, hat, Option.bind_some, ih (by simpa using hrest)]
    simp [leaves]

theorem openTable_fresh (h : k ∉ es.map Prod.fst) :
    openTable [k] es = some (es ++ [(k, .table .header [])]) := by
  simp [openTable, atPath, lookup_fresh h]

theorem build?_headed {xs : Sections} (nodup : (es.map Prod.fst ++ xs.map Prod.fst).Nodup)
    (hinner : ∀ x ∈ xs, (x.2.map Prod.fst).Nodup) :
    build? here es (headed xs) = some (es ++ branches xs) := by
  induction xs generalizing es here with
  | nil => simp [headed, branches, build?]
  | cons x xs ih =>
    obtain ⟨hx, hxs⟩ := List.forall_mem_cons.1 hinner
    obtain ⟨hfresh, hrest⟩ := nodup_snoc nodup
    have hstep : build? here es (headed (x :: xs)) = (openTable [x.1] es).bind fun es =>
        build? [x.1] es (assigns x.2 ++ headed xs) := by
      simp [headed, build?]
    rw [hstep, openTable_fresh hfresh, Option.bind_some, build?_inner hfresh (by simpa using hx),
      ih (by simpa using hrest) hxs]
    simp [branches]

theorem entriesData_append (es fs : Entries) :
    entriesData (es ++ fs) = entriesData es ++ entriesData fs := by
  induction es with
  | nil => rfl
  | cons e es ih =>
    obtain ⟨k, n⟩ := e
    rw [List.cons_append, entriesData, entriesData, ih]
    rfl

theorem entriesData_leaves (es : List (String × Data)) : entriesData (leaves es) = es := by
  induction es with
  | nil => rfl
  | cons e es ih =>
    obtain ⟨k, d⟩ := e
    exact congrArg ((k, d) :: ·) ih

theorem entriesData_branches (xs : Sections) :
    entriesData (branches xs) = xs.map fun x => (x.1, .table x.2) := by
  induction xs with
  | nil => rfl
  | cons x xs ih =>
    have hhead : (Node.table .header (leaves x.2)).toData = .table x.2 := by
      rw [Node.toData, entriesData_leaves]
    rw [List.map_cons, ← ih, ← hhead]
    rfl

end Tables

section Documents

/-- What an entry of a document may be: nothing, a value, or a table of values by name. -/
inductive IsPart : Data → Prop where
  | null : IsPart .null
  | value {d : Data} (value : IsEntryValue d) : IsPart d
  | table {es : List (String × Data)} (names : (es.map Prod.fst).Nodup)
      (values : ∀ e ∈ es, IsEntryValue e.2) : IsPart (.table es)

/-- The tables among the entries of a document. -/
def sections (es : List (String × Data)) : Sections := es.filterMap fun e =>
  match e.2 with
  | .table inner => some (e.1, inner)
  | _ => none

theorem filter_isTable (es : List (String × Data)) :
    es.filter isTable = (sections es).map fun x => (x.1, .table x.2) := by
  induction es with
  | nil => rfl
  | cons e es ih =>
    obtain ⟨k, d⟩ := e
    cases d with
    | table inner =>
      have hkeep : ((k, .table inner) :: es).filter isTable =
          (k, .table inner) :: es.filter isTable :=
        List.filter_cons_of_pos rfl
      rw [hkeep, ih]
      rfl
    | _ =>
      rw [List.filter_cons_of_neg (by simp [isTable]), ih]
      rfl

theorem write_eq (es : List (String × Data)) : (write es).toList =
    entriesText (es.filter isSimple) ++ sectionsText (sections es) := by
  have hsection : ∀ x : String × List (String × Data), (writeSection (x.1, .table x.2)).toList =
      '\n' :: '[' :: ((quoteKey x.1).toList ++ ']' :: '\n' :: entriesText x.2) := by
    intro x
    simp [writeSection, entriesText, String.toList_join, List.flatMap_map]
  simp only [write, filter_isTable, String.toList_append, String.toList_join, List.flatMap_map,
    hsection, entriesText, sectionsText]

theorem isTable_of_isSimple (h : isSimple e = true) : isTable e = false := by
  obtain ⟨k, d⟩ := e
  cases d <;> first | rfl | cases h

theorem value_of_isSimple (hpart : IsPart e.2) (hsimple : isSimple e = true) :
    IsEntryValue e.2 := by
  obtain ⟨k, d⟩ := e
  cases hpart with
  | null => cases hsimple
  | value value => exact value
  | table => cases hsimple

theorem mem_sections {es : List (String × Data)} {x : String × List (String × Data)}
    (hx : x ∈ sections es) : (x.1, .table x.2) ∈ es := by
  obtain ⟨⟨k, d⟩, he, hd⟩ := List.mem_filterMap.1 hx
  cases d with
  | table inner =>
    cases hd
    exact he
  | _ => cases hd

theorem table_of_isPart {es : List (String × Data)} (h : IsPart (.table es)) :
    (es.map Prod.fst).Nodup ∧ ∀ e ∈ es, IsEntryValue e.2 := by
  cases h with
  | value value =>
    cases value with
    | scalar scalar => cases scalar
  | table names values => exact ⟨names, values⟩

/-- Entries keep their names apart when values and tables are parted. -/
theorem nodup_parted {es : List (String × Data)} (names : (es.map Prod.fst).Nodup) :
    ((es.filter isSimple).map Prod.fst ++ (sections es).map Prod.fst).Nodup := by
  have htables : (sections es).map Prod.fst = (es.filter isTable).map Prod.fst := by
    simp [filter_isTable]
  rw [htables, List.nodup_append]
  refine ⟨names.sublist (List.filter_sublist.map _), names.sublist (List.filter_sublist.map _), ?_⟩
  intro name hsimple other htable heq
  obtain ⟨x, hx, hname⟩ := List.mem_map.1 hsimple
  obtain ⟨y, hy, rfl⟩ := List.mem_map.1 htable
  rw [List.mem_filter] at hx hy
  replace hname := hname.trans heq
  have hsame : x = y := List.inj_on_of_nodup_map names hx.1 hy.1 hname
  have hnot := isTable_of_isSimple hx.2
  rw [hsame, hy.2] at hnot
  cases hnot

/-- No document begins with a byte order mark. -/
theorem head?_write_ne (es : List (String × Data)) (tail : List Char) :
    (write es).toList ≠ '\uFEFF' :: tail := by
  rw [write_eq]
  intro he
  cases hsimple : es.filter isSimple with
  | cons e rest =>
    have htext : entriesText (e :: rest) ++ sectionsText (sections es) =
        (writeEntry e).toList ++ (entriesText rest ++ sectionsText (sections es)) := by
      simp [entriesText]
    obtain ⟨c, more, hmore, hc⟩ := exists_writeEntry_cons e
      (entriesText rest ++ sectionsText (sections es))
    rw [hsimple, htext, hmore] at he
    cases he
    rcases hc with hc | hc | hc <;> cases hc
  | nil =>
    rw [hsimple] at he
    cases htables : sections es with
    | nil =>
      rw [htables] at he
      cases he
    | cons x xs =>
      rw [htables] at he
      cases he

/-- A document of parts with names of their own is read back with its values in front and its tables
behind them. Entries without value are lost. -/
theorem read?_write {es : List (String × Data)} (names : (es.map Prod.fst).Nodup)
    (parts : ∀ e ∈ es, IsPart e.2) :
    read? (write es) = some (.table (es.filter isSimple ++ es.filter isTable)) := by
  have hvalues : ∀ e ∈ es.filter isSimple, IsEntryValue e.2 := by
    intro e he
    rw [List.mem_filter] at he
    exact value_of_isSimple (parts e he.1) he.2
  have htables : ∀ x ∈ sections es, (x.2.map Prod.fst).Nodup ∧ ∀ e ∈ x.2, IsEntryValue e.2 :=
    fun x hx => table_of_isPart (parts _ (mem_sections hx))
  have hstatements : statements? ((write es).toList.length + 1) (write es).toList =
      some (assigns (es.filter isSimple) ++ headed (sections es)) := by
    rw [write_eq]
    exact statements?_entries hvalues
      (fun _ hfuel => statements?_sections (fun x hx => (htables x hx).2) hfuel)
      (Nat.lt_succ_self _)
  have hbuild : build? [] [] (assigns (es.filter isSimple) ++ headed (sections es)) =
      some (leaves (es.filter isSimple) ++ branches (sections es)) := by
    have hnames := nodup_parted names
    rw [build?_top (by simpa using hnames.of_append_left), List.nil_append, build?_headed]
    · rw [names_leaves]
      exact hnames
    · exact fun x hx => (htables x hx).1
  have hmark : read? (write es) = (do
      let statements ← statements? ((write es).toList.length + 1) (write es).toList
      some (.table (entriesData (← build? [] [] statements)))) := by
    rw [read?]
    split
    · rename_i he
      exact (head?_write_ne es _ he).elim
    · rfl
  rw [hmark, hstatements]
  simp only [Option.bind_eq_bind, Option.bind_some, hbuild, entriesData_append, entriesData_leaves,
    entriesData_branches, filter_isTable]

end Documents

end Keyboards.Toml
