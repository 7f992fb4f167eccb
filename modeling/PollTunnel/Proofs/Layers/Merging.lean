import PollTunnel.Proofs.Layers.Documents

/-!
# The last document that has a say wins

The documents of an environment are laid over each other in order (`Toml.mergeAll`).  This file says
what the result has at a path of keys, in terms of the documents alone.

A document has a say about a path in one of two ways: something stands there, or a plain value (one
that is no table) stands on the way, and then nothing can (`Toml.Bars`).  A document that does
neither is `Toml.Silent` about the path.  Of two tables the upper one decides unless it is silent
(`mark?_merge`), so of many the last one that is not silent does (`mark?_mergeAll`).  That holds at
every depth, and also where a table lies over a plain value or the other way round.

A table is laid over another entry by entry, so the result depends on each key standing once in it
(`Toml.distinctKeys`).  That is so for all documents of an environment, since they are in order
(`Environment.Sorted`).
-/

set_option autoImplicit false

namespace PollTunnel
namespace Toml

/-! ## Paths, key by key -/

/-- What the merge of two tables has at a key. -/
theorem get?_merge {upper : Table} (h : distinctKeys upper = true) (key : String) (base : Table) :
    get? key (merge base upper) =
      match get? key upper with
      | some value => some (overlay (get? key base) value)
      | none => get? key base := by
  induction upper generalizing base with
  | nil => rfl
  | cons entry rest ih =>
    obtain ⟨k, value⟩ := entry
    obtain ⟨hnew, -, hrest⟩ := distinctKeys_cons.1 h
    rw [merge, ih hrest, get?]
    by_cases hk : k = key
    · subst hk
      -- the key does not come again, so what is set first stays
      rw [if_pos rfl, hnew, get?_set_self]
    · rw [if_neg hk, get?_set_of_ne (Ne.symm hk)]

/-- The value at a path below a value. -/
def below? : Toml → List String → Option Toml
  | value, [] => some value
  | .table entries, key :: path => at? entries (key :: path)
  | _, _ :: _ => none

@[simp] theorem below?_table (entries : Table) (path : List String) :
    below? (.table entries) path = at? entries path := by
  cases path <;> rfl

theorem at?_cons (table : Table) (key : String) (path : List String) :
    at? table (key :: path) = (get? key table).bind (below? · path) := by
  cases path with
  | nil => cases h : get? key table <;> simp [at?, h, below?]
  | cons next path =>
    rw [at?]
    · cases get? key table with
      | none => rfl
      | some value => cases value <;> rfl
    · simp

/-! ## What stands at a path -/

/-- What stands at a path. -/
inductive Mark where
  /-- A table, whose entries stand at longer paths. -/
  | table
  /-- A value that is no table. -/
  | plain (value : Toml)

/-- A value, as what stands at its path. -/
def mark : Toml → Mark
  | .table _ => .table
  | value => .plain value

/-- What stands at a path of a table, if anything does. -/
def mark? (table : Table) (path : List String) : Option Mark := (at? table path).map mark

theorem mark?_eq_table {table : Table} {path : List String} :
    mark? table path = some .table ↔ ∃ entries, at? table path = some (.table entries) := by
  rw [mark?]
  cases at? table path with
  | none => simp
  | some value => cases value <;> simp [mark]

theorem mark?_eq_plain {table : Table} {path : List String} {value : Toml}
    (h : value.isTable = false) :
    mark? table path = some (.plain value) ↔ at? table path = some value := by
  rw [mark?]
  cases at? table path with
  | none => simp
  | some found => cases found <;> cases value <;> simp [mark, isTable] at h ⊢

/-- A plain value stands on the way to a path, before its end. -/
def Bars (table : Table) (path : List String) : Prop :=
  ∃ q value, q ≠ [] ∧ q <+: path ∧ q ≠ path ∧ at? table q = some value ∧ value.isTable = false

theorem bars_cons {table : Table} {key : String} {path : List String} :
    Bars table (key :: path) ↔ ∃ value, get? key table = some value ∧
      (value.isTable = false ∧ path ≠ [] ∨ ∃ entries, value = .table entries ∧ Bars entries path) := by
  constructor
  · rintro ⟨q, value, hne, hq, hshort, hvalue, hplain⟩
    obtain ⟨k, q, rfl⟩ := List.exists_cons_of_ne_nil hne
    obtain ⟨rfl, hprefix⟩ := List.cons_prefix_cons.1 hq
    rw [at?_cons, Option.bind_eq_some_iff] at hvalue
    obtain ⟨first, hfirst, hvalue⟩ := hvalue
    refine ⟨first, hfirst, ?_⟩
    cases q with
    | nil =>
      cases hvalue
      exact Or.inl ⟨hplain, fun h => hshort (h ▸ rfl)⟩
    | cons next q =>
      cases first with
      | table entries =>
        exact Or.inr ⟨entries, rfl, next :: q, value, List.cons_ne_nil _ _, hprefix,
          fun h => hshort (h ▸ rfl), hvalue, hplain⟩
      | _ => cases hvalue
  · rintro ⟨value, hvalue, ⟨hplain, hne⟩ | ⟨entries, rfl, q, below, -, hq, hshort, hbelow, hplain⟩⟩
    · have hfirst : at? table [key] = some value := by rw [at?_cons, hvalue]; rfl
      exact ⟨[key], value, List.cons_ne_nil _ _, List.cons_prefix_cons.2 ⟨rfl, List.nil_prefix⟩,
        fun h => hne (List.cons.inj h).2.symm, hfirst, hplain⟩
    · have hlong : at? table (key :: q) = some below := by
        rw [at?_cons, hvalue, Option.bind_some, below?_table, hbelow]
      exact ⟨key :: q, below, List.cons_ne_nil _ _, List.cons_prefix_cons.2 ⟨rfl, hq⟩,
        fun h => hshort (List.cons.inj h).2, hlong, hplain⟩

/-- A table says nothing about a path: nothing stands there, and nothing is in the way. -/
def Silent (table : Table) (path : List String) : Prop :=
  at? table path = none ∧ ¬ Bars table path

/-- No plain value stands at a path or on the way to it. -/
def Clear (table : Table) (path : List String) : Prop :=
  ∀ q value, q ≠ [] → q <+: path → at? table q = some value → value.isTable = true

/-- Nothing is in the way to what stands at a path. -/
theorem not_bars_of_at? {table : Table} {path : List String} {value : Toml}
    (h : at? table path = some value) : ¬ Bars table path := by
  induction path generalizing table with
  | nil =>
    rintro ⟨q, found, hne, hq, -⟩
    exact hne (List.prefix_nil.1 hq)
  | cons key path ih =>
    intro hbars
    obtain ⟨first, hfirst, hcase⟩ := bars_cons.1 hbars
    rw [at?_cons, hfirst, Option.bind_some] at h
    rcases hcase with ⟨hplain, hne⟩ | ⟨entries, rfl, hentries⟩
    · obtain ⟨next, path, rfl⟩ := List.exists_cons_of_ne_nil hne
      cases first <;> simp [below?, isTable] at h hplain
    · exact ih (below?_table entries path ▸ h) hentries

/-- A path is clear if the table is silent about it, or has a table there. -/
theorem clear_iff {table : Table} {path : List String} :
    Clear table path ↔ Silent table path ∨ mark? table path = some .table := by
  constructor
  · intro hclear
    have hfree : ¬ Bars table path := by
      rintro ⟨q, value, hne, hq, -, hvalue, hplain⟩
      rw [hclear q value hne hq hvalue] at hplain
      cases hplain
    cases hvalue : at? table path with
    | none => exact Or.inl ⟨hvalue, hfree⟩
    | some value =>
      refine Or.inr ?_
      cases path with
      | nil => rfl
      | cons key path =>
        have htable := hclear _ value (List.cons_ne_nil key path) (List.prefix_refl _) hvalue
        cases value <;> simp [mark?, hvalue, mark, isTable] at htable ⊢
  · rintro hcase q value hne hq hvalue
    have hfree : ¬ Bars table path := by
      rcases hcase with hsilent | htable
      · exact hsilent.2
      · obtain ⟨entries, hentries⟩ := mark?_eq_table.1 htable
        exact not_bars_of_at? hentries
    by_cases hend : q = path
    · subst hend
      rcases hcase with hsilent | htable
      · rw [hsilent.1] at hvalue
        cases hvalue
      · obtain ⟨entries, hentries⟩ := mark?_eq_table.1 htable
        cases hentries.symm.trans hvalue
        rfl
    · cases hplain : value.isTable with
      | true => rfl
      | false => exact absurd ⟨q, value, hne, hq, hend, hvalue, hplain⟩ hfree

/-! ## Two tables -/

/-- **The upper table decides unless it is silent.** -/
theorem mark?_merge {base upper : Table} (h : distinctKeys upper = true) (path : List String)
    (x : Mark) :
    mark? (merge base upper) path = some x ↔
      mark? upper path = some x ∨ Silent upper path ∧ mark? base path = some x := by
  induction path generalizing base upper with
  | nil => simp [mark?, at?, Silent, mark]
  | cons key path ih =>
    simp only [mark?, Silent, at?_cons, get?_merge h, bars_cons]
    cases hover : get? key upper with
    | none => simp
    | some value =>
      cases value with
      | table incoming =>
        have hin : distinctKeys incoming = true := by
          simpa [isDistinct] using isDistinct_of_get? h hover
        cases get? key base with
        | none => simp [overlay]
        | some under =>
          cases under with
          | table existing =>
            -- only where a table lies over a table is there anything to decide further down
            have hbelow := @ih existing incoming hin
            simp only [mark?, Silent] at hbelow
            simp [overlay, hbelow, isTable]
          | _ => cases path <;> simp [overlay, below?, isTable]
      | _ => cases path <;> simp [overlay, below?, isTable]

/-! ## Many tables -/

/-- The last of several tables that is not silent about a path has this there. -/
def LastWord (tables : List Table) (path : List String) (x : Mark) : Prop :=
  ∃ before table after, tables = before ++ table :: after ∧ mark? table path = some x ∧
    ∀ later ∈ after, Silent later path

theorem lastWord_cons {table : Table} {rest : List Table} {path : List String} {x : Mark} :
    LastWord (table :: rest) path x ↔
      LastWord rest path x ∨ mark? table path = some x ∧ ∀ later ∈ rest, Silent later path := by
  constructor
  · rintro ⟨before, t, after, hsplit, hmark, hafter⟩
    rcases List.cons_eq_append_iff.1 hsplit with ⟨-, hcons⟩ | ⟨before, rfl, hrest⟩
    · obtain ⟨rfl, rfl⟩ := List.cons.inj hcons
      exact Or.inr ⟨hmark, hafter⟩
    · exact Or.inl ⟨before, t, after, hrest, hmark, hafter⟩
  · rintro (⟨before, t, after, rfl, hmark, hafter⟩ | ⟨hmark, hrest⟩)
    · exact ⟨table :: before, t, after, rfl, hmark, hafter⟩
    · exact ⟨[], table, rest, rfl, hmark, hrest⟩

theorem mark?_foldl_merge {tables : List Table} (h : ∀ t ∈ tables, distinctKeys t = true)
    (base : Table) (path : List String) (x : Mark) :
    mark? (tables.foldl merge base) path = some x ↔
      LastWord tables path x ∨ mark? base path = some x ∧ ∀ t ∈ tables, Silent t path := by
  induction tables generalizing base with
  | nil => simp [LastWord]
  | cons table rest ih =>
    obtain ⟨htable, hrest⟩ := List.forall_mem_cons.1 h
    rw [List.foldl_cons, ih hrest, mark?_merge htable, lastWord_cons, List.forall_mem_cons]
    constructor
    · rintro (hlast | ⟨hover | ⟨hsilent, hbase⟩, hall⟩)
      · exact Or.inl (Or.inl hlast)
      · exact Or.inl (Or.inr ⟨hover, hall⟩)
      · exact Or.inr ⟨hbase, hsilent, hall⟩
    · rintro ((hlast | ⟨hover, hall⟩) | ⟨hbase, hsilent, hall⟩)
      · exact Or.inl hlast
      · exact Or.inr ⟨Or.inl hover, hall⟩
      · exact Or.inr ⟨Or.inr ⟨hsilent, hbase⟩, hall⟩

/-- **The last table that is not silent decides.**  The whole is a table in any case, so the empty
path says something only if there are tables. -/
theorem mark?_mergeAll {tables : List Table} (h : ∀ t ∈ tables, distinctKeys t = true)
    {path : List String} (hpath : path = [] → tables ≠ []) (x : Mark) :
    mark? (mergeAll tables) path = some x ↔ LastWord tables path x := by
  rw [mergeAll, mark?_foldl_merge h]
  refine or_iff_left ?_
  rintro ⟨hbase, hall⟩
  cases path with
  | nil =>
    obtain ⟨table, rest, rfl⟩ := List.exists_cons_of_ne_nil (hpath rfl)
    cases (hall table List.mem_cons_self).1
  | cons key path =>
    rw [mark?, at?_cons] at hbase
    cases hbase

/-- The last word is that there is a table exactly if some table has one there and no later one is
in the way. -/
theorem lastWord_table_iff {tables : List Table} {path : List String} :
    LastWord tables path .table ↔
      ∃ before table after, tables = before ++ table :: after ∧ mark? table path = some .table ∧
        ∀ later ∈ after, Clear later path := by
  constructor
  · rintro ⟨before, table, after, hsplit, hmark, hafter⟩
    exact ⟨before, table, after, hsplit, hmark, fun t ht => clear_iff.2 (Or.inl (hafter t ht))⟩
  · rintro ⟨before, table, after, rfl, hmark, hafter⟩
    -- A later table that is not silent has a table there as well, and then it has the last word.
    have hlast : LastWord (table :: after) path .table := by
      induction after generalizing table with
      | nil => exact ⟨[], table, [], rfl, hmark, nofun⟩
      | cons next after ih =>
        obtain ⟨hnext, hrest⟩ := List.forall_mem_cons.1 hafter
        rcases clear_iff.1 hnext with hsilent | htable
        · rcases lastWord_cons.1 (ih table hmark hrest) with hlater | ⟨-, hall⟩
          · exact lastWord_cons.2 (Or.inl (lastWord_cons.2 (Or.inl hlater)))
          · exact lastWord_cons.2 (Or.inr ⟨hmark, List.forall_mem_cons.2 ⟨hsilent, hall⟩⟩)
        · exact lastWord_cons.2 (Or.inl (ih next htable hrest))
    obtain ⟨between, t, rest, hsplit, hlast⟩ := hlast
    exact ⟨before ++ between, t, rest, by rw [hsplit, List.append_assoc], hlast⟩

end Toml

namespace Config
namespace Environment

/-! ## Documents -/

/-- To split the tables of documents is to split the documents. -/
theorem exists_split_tables {sources : List Source} {P Q : Toml.Table → Prop} :
    (∃ before table after, sources.map (·.table) = before ++ table :: after ∧ P table ∧
        ∀ later ∈ after, Q later) ↔
      ∃ before source after, sources = before ++ source :: after ∧ P source.table ∧
        ∀ later ∈ after, Q later.table := by
  constructor
  · rintro ⟨before, table, after, hsplit, htable, hafter⟩
    obtain ⟨first, rest, rfl, rfl, hrest⟩ := List.map_eq_append_iff.1 hsplit
    obtain ⟨source, last, rfl, rfl, rfl⟩ := List.map_eq_cons_iff.1 hrest
    exact ⟨first, source, last, rfl, htable, List.forall_mem_map.1 hafter⟩
  · rintro ⟨before, source, after, rfl, hsource, hafter⟩
    exact ⟨before.map (·.table), source.table, after.map (·.table), by simp, hsource,
      List.forall_mem_map.2 hafter⟩

/-- **What the documents of an environment come to at a path of keys.** -/
structure LastWins (e : Environment) (path : List String) : Prop where
  /-- A value that is no table is there if some document has it there, and every later one has
  nothing there and no such value on the way. -/
  plain : ∀ value : Toml, value.isTable = false →
    (Toml.at? e.merged path = some value ↔
      ∃ before source after, e.sources = before ++ source :: after ∧
        Toml.at? source.table path = some value ∧
        ∀ later ∈ after, Toml.at? later.table path = none ∧ ¬ Toml.Bars later.table path)
  /-- A table is there if some document has one there, and no later one has a value that is no table
  there or on the way. -/
  table : (∃ entries, Toml.at? e.merged path = some (.table entries)) ↔
    ∃ before source after, e.sources = before ++ source :: after ∧
      (∃ entries, Toml.at? source.table path = some (.table entries)) ∧
      ∀ later ∈ after, Toml.Clear later.table path
  /-- The whole is a table in order, as the documents are. -/
  sorted : Toml.sorted e.merged = true

/-- **The last document that has a say wins, at every depth.**  The empty path leads to the whole,
which is a table even if there are no documents. -/
theorem merged_lastWins (e : Environment) (h : e.Sorted) {path : List String}
    (hpath : path = [] → e.sources ≠ []) : e.LastWins path := by
  have htables : ∀ table ∈ e.sources.map (·.table), Toml.distinctKeys table = true :=
    List.forall_mem_map.2 h.distinctKeys
  have hnonempty : path = [] → e.sources.map (·.table) ≠ [] := by
    intro hnil hnone
    exact hpath hnil (List.map_eq_nil_iff.1 hnone)
  have hmark : ∀ x, Toml.mark? e.merged path = some x ↔
      Toml.LastWord (e.sources.map (·.table)) path x := fun x =>
    Toml.mark?_mergeAll htables hnonempty x
  constructor
  · intro value hplain
    rw [← Toml.mark?_eq_plain hplain, hmark, Toml.LastWord, exists_split_tables]
    simp only [Toml.mark?_eq_plain hplain, Toml.Silent]
  · rw [← Toml.mark?_eq_table, hmark, Toml.lastWord_table_iff, exists_split_tables]
    simp only [Toml.mark?_eq_table]
  · exact h.merged

/-- Three documents, of which the one in the middle has a text where the others have a table. -/
def stackedLoader : Loader := fun location =>
  match location.text with
  | "base" => .ok (some "[server]\npath = '/a'\nport = 1")
  | "middle" => .ok (some "server = 'none'")
  | "top" => .ok (some "[server]\npath = '/b'")
  | _ => .ok none

/-- A text in the middle erases what was below it, and does so for good. -/
theorem merged_lastWins_erased :
    let base := (apply stackedLoader [] {} (Bytes.ofString "base")).environment
    let middle := (apply stackedLoader [] base (Bytes.ofString "middle")).environment
    let e := (apply stackedLoader [] middle (Bytes.ofString "top")).environment
    e.Sorted ∧ (["server", "port"] = [] → e.sources ≠ []) ∧ e.LastWins ["server", "port"] ∧
      e.sources.map (·.name) = ["base", "middle", "top"] ∧
      (Toml.at? base.merged ["server", "port"]).isSome = true ∧
      Toml.at? e.merged ["server", "port"] = none ∧
      (Toml.at? e.merged ["server", "path"]).isSome = true := by
  intro base middle e
  have hnone : ({} : Environment).Sorted := fun source hsource => absurd hsource List.not_mem_nil
  have hsorted : e.Sorted :=
    sorted_apply _ _ (sorted_apply _ _ (sorted_apply _ _ hnone _) _) _
  have hpath : ["server", "port"] = [] → e.sources ≠ [] := fun hnil => absurd hnil (by simp)
  exact ⟨hsorted, hpath, merged_lastWins e hsorted hpath, by decide +kernel, by decide +kernel,
    by decide +kernel, by decide +kernel⟩

end Environment
end Config
end PollTunnel
