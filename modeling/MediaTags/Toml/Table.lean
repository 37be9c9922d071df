/-!
# Values and tables

A table is a list of named values in the order they were given, and no name is given twice. Tables
that a path passes through are made on the way; which of them may be extended later depends on how
they came about.
-/

namespace MediaTags.Toml

/-- How a table came about. -/
inductive Origin where
  /-- Written between braces. -/
  | inline
  /-- Opened by a header of its own. -/
  | header
  /-- Passed through by a header. -/
  | implied
  /-- Passed through by a dotted key. -/
  | dotted
  deriving DecidableEq, Repr

inductive Value where
  | text (s : String)
  | integer (n : Int)
  | float
  | boolean (b : Bool)
  | date
  | array (items : List Value)
  | table (origin : Origin) (members : List (String × Value))
  /-- Tables that each have a header with double brackets. -/
  | tables (items : List (List (String × Value)))

abbrev Table := List (String × Value)

/-- A dotted key. -/
structure Path where
  parents : List String
  name : String
  deriving DecidableEq, Repr

namespace Table

/-- Give a name that the table has another value. -/
def replace (k : String) (v : Value) (t : Table) : Table :=
  t.map fun (k', v') => (k', if k' = k then v else v')

/-- Change the table at the end of a path, with its origin known. Tables that are missing on the
way get the origin `fresh`; when that is `dotted`, no table with a header may be passed through. Of
tables in a row the last one is meant. -/
def alter (fresh : Origin) (f : Origin → Table → Option Table) :
    List String → Origin → Table → Option Table
  | [], origin, t => f origin t
  | k :: path, _, t =>
    match t.lookup k with
    | none => (alter fresh f path fresh []).map fun c => t ++ [(k, .table fresh c)]
    | some (.table origin c) =>
      if origin = .inline ∨ (fresh = .dotted ∧ origin = .header) then none
      else (alter fresh f path origin c).map fun c => replace k (.table origin c) t
    | some (.tables items) =>
      match items.getLast? with
      | some c =>
        (alter fresh f path .header c).map fun c => replace k (.tables (items.dropLast ++ [c])) t
      | none => none
    | some _ => none

/-- Add a value under a dotted key. Only tables that such keys made are extended this way. -/
def insert (t : Table) (p : Path) (v : Value) : Option Table :=
  alter .dotted (fun origin c =>
    if (!p.parents.isEmpty && origin != .dotted) || (c.lookup p.name).isSome then none
    else some (c ++ [(p.name, v)])) p.parents .header t

/-- Open a table. One that a header passed through may still be opened. -/
def openTable (t : Table) (p : Path) : Option Table :=
  alter .implied (fun _ c =>
    match c.lookup p.name with
    | none => some (c ++ [(p.name, .table .header [])])
    | some (.table .implied members) => some (replace p.name (.table .header members) c)
    | some _ => none) p.parents .header t

/-- Open one more table in a row of tables. -/
def openItem (t : Table) (p : Path) : Option Table :=
  alter .implied (fun _ c =>
    match c.lookup p.name with
    | none => some (c ++ [(p.name, .tables [[]])])
    | some (.tables items) => some (replace p.name (.tables (items ++ [[]])) c)
    | some _ => none) p.parents .header t

/-- Add a value in the table that was opened last. -/
def insertAt (opened : List String) (t : Table) (p : Path) (v : Value) : Option Table :=
  alter .implied (fun _ c => insert c p v) opened .header t

/-- The table of pairs between braces. -/
def ofPairs? (pairs : List (Path × Value)) : Option Table :=
  pairs.foldlM (fun t (p, v) => insert t p v) []

end Table

end MediaTags.Toml
