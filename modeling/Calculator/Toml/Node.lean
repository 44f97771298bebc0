/-
**The tree that a TOML document builds.**

* `Node`: a value that is complete, a table that may grow, or the tables of an array of tables.
* `insert`: a value under a dotted key.
* `declare`, `append`: a table, or one more table of an array, under the key of a header.
* `insertWithin`: a value under a dotted key of the table under a header.

A table grows by dotted keys unless a header opened it, and a header opens a table that so far was
only passed on the way to another one.
-/

import Calculator.Data.Value
import Calculator.Toml.Basic

namespace Calculator.Toml

/-! ### Nodes -/

/-- How a table came to be. -/
inductive Origin where
  /-- A header passed it on the way to another table. -/
  | passed
  /-- A dotted key passed it. -/
  | dotted
  /-- A header opened it. -/
  | opened
  deriving DecidableEq, Repr

/-- What stands under a key. -/
inductive Node where
  | leaf (value : Value)
  | table (origin : Origin) (entries : List (String × Node))
  /-- An array of tables, the last of which may grow. -/
  | tables (earlier : List Value) (last : List (String × Node))

/-- The contents of a table, in the order in which its keys first appeared. -/
abbrev Entries : Type := List (String × Node)

mutual

/-- The value that a node has become. -/
def Node.value : Node → Value
  | .leaf value => value
  | .table _ entries => .table (entryValues entries)
  | .tables earlier last => .list (earlier ++ [.table (entryValues last)])

/-- The values that the contents of a table have become. -/
def entryValues : List (String × Node) → List (String × Value)
  | [] => []
  | (key, node) :: rest => (key, node.value) :: entryValues rest

end

/-! ### Changes -/

/-- Replaces what stands under a key by what `change` makes of it, or appends it. -/
def change (key : String) (make : Option Node → Except Fault Node) : Entries → Except Fault Entries
  | [] => do return [(key, ← make none)]
  | (other, node) :: rest =>
    if other = key then do return (other, ← make (some node)) :: rest
    else do return (other, node) :: (← change key make rest)

/-- Puts a value under a dotted key. -/
def insert (value : Value) : List String → Entries → Except Fault Entries
  | [], _ => .error .malformed
  | [key], entries =>
    change key (fun
      | none => .ok (.leaf value)
      | some _ => .error .malformed) entries
  | key :: more, entries =>
    change key (fun
      | none => do return .table .dotted (← insert value more [])
      | some (.table origin inner) =>
        if origin = .opened then .error .malformed
        else do return .table .dotted (← insert value more inner)
      | some _ => .error .malformed) entries

/-- Changes what stands under the last of the keys, passing through the tables under the others; of
an array of tables it is the last one. -/
def reach (make : Option Node → Except Fault Node) : List String → Entries → Except Fault Entries
  | [], _ => .error .malformed
  | [key], entries => change key make entries
  | key :: more, entries =>
    change key (fun
      | none => do return .table .passed (← reach make more [])
      | some (.table origin inner) => do return .table origin (← reach make more inner)
      | some (.tables earlier last) => do return .tables earlier (← reach make more last)
      | some (.leaf _) => .error .malformed) entries

/-- Opens the table under the key of a header. -/
def declare (path : List String) (entries : Entries) : Except Fault Entries :=
  reach (fun
    | none => .ok (.table .opened [])
    | some (.table .passed inner) => .ok (.table .opened inner)
    | some _ => .error .malformed) path entries

/-- Adds a table to the array of tables under the key of a header. -/
def append (path : List String) (entries : Entries) : Except Fault Entries :=
  reach (fun
    | none => .ok (.tables [] [])
    | some (.tables earlier last) => .ok (.tables (earlier ++ [.table (entryValues last)]) [])
    | some _ => .error .malformed) path entries

/-- Puts a value under a dotted key of the table that a header opened. -/
def insertWithin (value : Value) (key : List String) (header : List String) (entries : Entries) :
    Except Fault Entries :=
  match header with
  | [] => insert value key entries
  | _ =>
    reach (fun
      | some (.table origin inner) => do return .table origin (← insert value key inner)
      | some (.tables earlier last) => do return .tables earlier (← insert value key last)
      | _ => .error .malformed) header entries

end Calculator.Toml
