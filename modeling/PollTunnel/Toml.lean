import PollTunnel.Number.Binary64

/-!
# Values of configuration documents

A document is a table of named values; tables nest.  The entries of a table stand in the order of
their keys, and a key stands there once.

* `Toml.get?`, `Toml.set` — one entry of a table.
* `Toml.at?` — the value at a path of keys.
* `Toml.merge` — one table laid over another: tables merge key by key, anything else replaces what
  was there.
-/

set_option autoImplicit false

namespace PollTunnel

/-- A value of a configuration document. -/
inductive Toml where
  | string (value : String)
  | integer (value : Int)
  | real (value : Binary64)
  | boolean (value : Bool)
  /-- A date, a time or both, in its normal form. -/
  | datetime (value : String)
  | array (items : List Toml)
  | table (entries : List (String × Toml))
  deriving Inhabited

namespace Toml

/-- The entries of a table. -/
abbrev Table := List (String × Toml)

/-- The value of a key. -/
def get? (key : String) : Table → Option Toml
  | [] => none
  | (k, v) :: rest => if k = key then some v else get? key rest

/-- The table with this value at a key. -/
def set (key : String) (value : Toml) : Table → Table
  | [] => [(key, value)]
  | (k, v) :: rest =>
    if k = key then (key, value) :: rest
    else if key < k then (key, value) :: (k, v) :: rest
    else (k, v) :: set key value rest

/-- The value at a path of keys; the empty path leads to the table itself. -/
def at? (table : Table) : List String → Option Toml
  | [] => some (.table table)
  | [key] => get? key table
  | key :: rest =>
    match get? key table with
    | some (.table entries) => at? entries rest
    | _ => none

/-- A value that is a table. -/
def isTable : Toml → Bool
  | .table _ => true
  | _ => false

mutual

/-- A value laid over what stood in its place. -/
def overlay (under : Option Toml) : Toml → Toml
  | .table incoming =>
    match under with
    | some (.table existing) => .table (merge existing incoming)
    | _ => .table incoming
  | .string s => .string s
  | .integer n => .integer n
  | .real x => .real x
  | .boolean b => .boolean b
  | .datetime d => .datetime d
  | .array items => .array items

/-- The table `base` with another laid over it. -/
def merge (base : Table) : Table → Table
  | [] => base
  | (key, value) :: rest => merge (set key (overlay (get? key base) value) base) rest

end

/-- Several tables laid over each other, the last on top. -/
def mergeAll (tables : List Table) : Table := tables.foldl merge []

@[simp] theorem get?_set_self (key : String) (value : Toml) (table : Table) :
    get? key (set key value table) = some value := by
  induction table with
  | nil => simp [set, get?]
  | cons entry rest ih =>
    obtain ⟨k, v⟩ := entry
    by_cases h : k = key
    · simp [set, get?, h]
    · by_cases hlt : key < k <;> simp [set, get?, h, hlt, ih]

theorem get?_set_of_ne {key other : String} (h : other ≠ key) (value : Toml) (table : Table) :
    get? other (set key value table) = get? other table := by
  induction table with
  | nil => simp [set, get?, Ne.symm h]
  | cons entry rest ih =>
    obtain ⟨k, v⟩ := entry
    by_cases hk : k = key
    · subst hk; simp [set, get?, Ne.symm h]
    · by_cases hlt : key < k
      · simp [set, get?, hk, hlt, Ne.symm h]
      · simp [set, get?, hk, hlt, ih]

end Toml
end PollTunnel
