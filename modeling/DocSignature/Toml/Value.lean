/-!
# TOML values

A TOML document is a table.  Tables grow while the document is read, and how a table was made known
decides who may still add to it, so a table keeps that along with its members.
-/

set_option autoImplicit false

namespace DocSignature.Toml

/-- How a table was made known. -/
inductive Origin where
  /-- By a header of its own, or as the document itself. -/
  | header
  /-- On the way to the table of another header. -/
  | passed
  /-- On the way of a dotted key. -/
  | dotted
  /-- Between braces; such a table is complete. -/
  | braces
deriving DecidableEq, Inhabited, Repr

/-- A value of a document. -/
inductive Value where
  | string (value : String)
  | integer (value : Int)
  /-- A number with a fraction or an exponent, an infinity, or no number at all. -/
  | real (text : String)
  | boolean (value : Bool)
  /-- A date, a time, or both. -/
  | moment (text : String)
  | array (items : List Value)
  | table (origin : Origin) (members : List (String × Value))
  /-- Tables under one header, which is written once for each. -/
  | tables (rows : List (List (String × Value)))
deriving Inhabited, Repr

/-- The members of a table, in the order in which they were made known. -/
abbrev Members := List (String × Value)

/-- The way to a value inside a table. -/
structure Key where
  /-- The tables on the way. -/
  path : List String
  /-- The name of the value in the last of them. -/
  last : String
deriving DecidableEq, Inhabited, Repr

namespace Members

/-- Gives a member a value, in its old place if it has one. -/
def set (key : String) (v : Value) : Members → Members
  | [] => [(key, v)]
  | (k, w) :: ms => if k = key then (k, v) :: ms else (k, w) :: set key v ms

/-- Changes the table at the end of a path.  Tables that are missing on the way are made known in
the given way.  The change is told how the table at the end was made known.

Nothing leads through a table between braces, and a dotted key does not lead through a table with a
header; of several tables under one header, the path goes on in the last. -/
def change (way : Origin) (f : Origin → Members → Option Members) :
    Origin → List String → Members → Option Members
  | origin, [], ms => f origin ms
  | _, key :: path, ms =>
    match ms.lookup key with
    | none => (change way f way path []).map fun t => set key (.table way t) ms
    | some (.table origin t) =>
      if origin = .braces ∨ (way = .dotted ∧ origin = .header) then none
      else (change way f origin path t).map fun t => set key (.table origin t) ms
    | some (.tables rows) =>
      match rows.getLast? with
      | none => none
      | some row =>
        (change way f .header path row).map fun row =>
          set key (.tables (rows.dropLast ++ [row])) ms
    | some _ => none

/-- Adds a value under a key.  The key must be new, and a dotted key adds only to tables that dotted
keys have made. -/
def add (ms : Members) (key : Key) (v : Value) : Option Members :=
  ms.change .dotted
    (fun origin t =>
      if (origin = .dotted ↔ key.path = []) ∨ (t.lookup key.last).isSome then none
      else some (t ++ [(key.last, v)]))
    .header key.path

/-- Adds values under keys, one after the other. -/
def addAll (ms : Members) (pairs : List (Key × Value)) : Option Members :=
  pairs.foldlM (fun ms (key, v) => ms.add key v) ms

/-- Adds the table of a header.  Its name must be new, or have been passed on the way to another
header only. -/
def addTable (ms : Members) (key : Key) (pairs : List (Key × Value)) : Option Members :=
  ms.change .passed
    (fun _ t =>
      match t.lookup key.last with
      | none => (addAll [] pairs).map fun u => t ++ [(key.last, .table .header u)]
      | some (.table .passed u) =>
        (addAll u pairs).map fun u => t.set key.last (.table .header u)
      | some _ => none)
    .header key.path

/-- Adds one more table under a header that is written once for each. -/
def addRow (ms : Members) (key : Key) (pairs : List (Key × Value)) : Option Members :=
  ms.change .passed
    (fun _ t =>
      match t.lookup key.last with
      | none => (addAll [] pairs).map fun u => t ++ [(key.last, .tables [u])]
      | some (.tables rows) =>
        (addAll [] pairs).map fun u => t.set key.last (.tables (rows ++ [u]))
      | some _ => none)
    .header key.path

end Members

end DocSignature.Toml
