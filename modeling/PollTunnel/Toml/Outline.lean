import PollTunnel.Toml

/-!
# Tables in the making

While a document is read, a table is more than its entries: what may still be added to it depends
on how it came about.  `Outline` holds that, and `Outline.finish` forgets it at the end.

* A table with a header of its own is written once; `[a.b]` may come before `[a]`.
* A table made by a dotted key grows by dotted keys of the same section only.
* A table in braces is a value and never grows.
* `[[a]]` adds one table to an array; later headers below `a` go to the latest.
-/

set_option autoImplicit false

namespace PollTunnel
namespace Toml

/-- How a table came about. -/
inductive Origin where
  /-- By its own header. -/
  | header
  /-- As a step on the way to another header. -/
  | implied
  /-- As a step of a dotted key. -/
  | dotted
  deriving DecidableEq, Repr

/-- A document, or a part of it, in the making. -/
inductive Outline where
  | value (v : Toml)
  | table (origin : Origin) (entries : List (String × Outline))
  /-- The tables of an array, the latest first. -/
  | tables (elements : List (List (String × Outline)))
  deriving Inhabited

namespace Outline

/-- The entries of a table in the making. -/
abbrev Entries := List (String × Outline)

/-- The entry of a key. -/
def find? (key : String) : Entries → Option Outline
  | [] => none
  | (k, v) :: rest => if k = key then some v else find? key rest

/-- The entries with this one at a key. -/
def put (key : String) (item : Outline) : Entries → Entries
  | [] => [(key, item)]
  | (k, v) :: rest => if k = key then (key, item) :: rest else (k, v) :: put key item rest

/-- Change the table at a path of header keys; tables on the way are made where they are
missing. -/
def belowHeader (change : Entries → Option Entries) (entries : Entries) :
    List String → Option Entries
  | [] => change entries
  | key :: path =>
    match find? key entries with
    | none => do
      return put key (.table .implied (← belowHeader change [] path)) entries
    | some (.table origin inner) => do
      return put key (.table origin (← belowHeader change inner path)) entries
    | some (.tables (latest :: older)) => do
      return put key (.tables ((← belowHeader change latest path) :: older)) entries
    | some _ => none

/-- Change the table at a path of dotted keys in one section: no table on the way has a header, and
the last was made by dotted keys. -/
def belowDots (change : Entries → Option Entries) (entries : Entries) :
    List String → Option Entries
  | [] => change entries
  | key :: path =>
    match find? key entries with
    | none => do
      return put key (.table .dotted (← belowDots change [] path)) entries
    | some (.table .header _) => none
    | some (.table .dotted inner) => do
      return put key (.table .dotted (← belowDots change inner path)) entries
    | some (.table .implied inner) =>
      if path = [] then none
      else do return put key (.table .implied (← belowDots change inner path)) entries
    | some (.tables (latest :: older)) =>
      if path = [] then none
      else do return put key (.tables ((← belowDots change latest path) :: older)) entries
    | some _ => none

/-- Add a value; the key is new. -/
def add (key : String) (v : Toml) (entries : Entries) : Option Entries :=
  if (find? key entries).isSome then none else some (put key (.value v) entries)

/-- Add a value under dotted keys, the last of which names it. -/
def addDotted (keys : List String) (v : Toml) (entries : Entries) : Option Entries :=
  match keys.getLast? with
  | none => none
  | some key => belowDots (add key v) entries keys.dropLast

/-- The table of a header begins. -/
def openTable (key : String) (entries : Entries) : Option Entries :=
  match find? key entries with
  | none => some (put key (.table .header []) entries)
  | some (.table .implied inner) => some (put key (.table .header inner) entries)
  | some _ => none

/-- One more table of an array begins. -/
def openElement (key : String) (entries : Entries) : Option Entries :=
  match find? key entries with
  | none => some (put key (.tables [[]]) entries)
  | some (.tables elements) => some (put key (.tables ([] :: elements)) entries)
  | some _ => none

mutual

/-- The value that an outline has come to. -/
def finish : Outline → Toml
  | .value v => v
  | .table _ entries => .table (finishTable entries)
  | .tables elements => .array (finishElements elements).reverse

/-- The table that entries have come to. -/
def finishTable : Entries → Table
  | [] => []
  | (key, item) :: rest => Toml.set key (finish item) (finishTable rest)

/-- The tables of an array, in the order given. -/
def finishElements : List Entries → List Toml
  | [] => []
  | entries :: rest => .table (finishTable entries) :: finishElements rest

end

end Outline
end Toml
end PollTunnel
