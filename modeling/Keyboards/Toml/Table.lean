import Keyboards.Data

/-! Tables under construction: what may be added to them, by assignments and by headers. -/

namespace Keyboards.Toml

/-- How a table came into being. -/
inductive Origin where
  /-- By a header of its own. -/
  | header
  /-- As part of a longer header; it may still get its own. -/
  | implied
  /-- As part of a dotted key; only dotted keys add to it. -/
  | dotted
deriving DecidableEq, Repr

inductive Node where
  | value (d : Data)
  | table (origin : Origin) (entries : List (String × Node))
  /-- A list of tables; the last one is open. -/
  | tables (items : List (List (String × Node)))

/-- The entries of a table, in the order in which they came. -/
abbrev Entries := List (String × Node)

/-- Puts another node in place of one that is there. -/
def Entries.replace (k : String) (n : Node) (es : Entries) : Entries :=
  es.map fun e => if e.1 = k then (k, n) else e

/-- Changes the table at a path and makes the tables that are missing on the way. Dotted keys lead
neither through values nor through tables with headers. -/
def atPath (viaDots : Bool) (change : Origin → Entries → Option Entries) :
    List String → Origin → Entries → Option Entries
  | [], origin, es => change origin es
  | k :: path, _, es =>
    match es.lookup k with
    | none => do
      let origin := if viaDots then .dotted else .implied
      some (es ++ [(k, .table origin (← atPath viaDots change path origin []))])
    | some (.value _) => none
    | some (.table origin inner) =>
      if viaDots && origin = .header then none
      else do some (es.replace k (.table origin (← atPath viaDots change path origin inner)))
    | some (.tables items) => do
      let last ← items.getLast?
      some (es.replace k (.tables (items.dropLast ++ [← atPath viaDots change path .header last])))

/-- Adds a value under a key that is not taken. -/
def put (k : String) (n : Node) (es : Entries) : Option Entries :=
  match es.lookup k with
  | none => some (es ++ [(k, n)])
  | some _ => none

/-- Adds a value under a dotted key, all but the last part of which lead to tables that dotted keys
made. -/
def assign (path : List String) (d : Data) (es : Entries) : Option Entries := do
  let k ← path.getLast?
  atPath true (fun origin es =>
    if (origin == .dotted) == path.dropLast.isEmpty then none else put k (.value d) es)
    path.dropLast .header es

/-- Opens a table by its header. It must not have had one before. -/
def openTable (path : List String) (es : Entries) : Option Entries := do
  let k ← path.getLast?
  atPath false (fun _ es =>
    match es.lookup k with
    | none => some (es ++ [(k, .table .header [])])
    | some (.table .implied inner) => some (es.replace k (.table .header inner))
    | some _ => none) path.dropLast .header es

/-- Opens one more table of a list of tables. -/
def openItem (path : List String) (es : Entries) : Option Entries := do
  let k ← path.getLast?
  atPath false (fun _ es =>
    match es.lookup k with
    | none => some (es ++ [(k, .tables [[]])])
    | some (.tables items) => some (es.replace k (.tables (items ++ [[]])))
    | some _ => none) path.dropLast .header es

mutual

def Node.toData : Node → Data
  | .value d => d
  | .table _ entries => .table (entriesData entries)
  | .tables items => .list (itemsData items)

def entriesData : List (String × Node) → List (String × Data)
  | [] => []
  | (k, n) :: rest => (k, n.toData) :: entriesData rest

def itemsData : List (List (String × Node)) → List Data
  | [] => []
  | es :: rest => .table (entriesData es) :: itemsData rest

end

end Keyboards.Toml
