import PollTunnel.Config.Loading

/-!
# The tables of documents are in order

A table has its entries in the order of their keys, and so has every table below it
(`Toml.isSorted`).  Then no key stands there twice (`Toml.distinctKeys_of_sorted`).

Every document that is read is such a table (`Toml.read?_sorted`), because a table in the making is
finished by setting one key after another, whatever the order of its lines was.  Tables that are
laid over each other stay in order (`Toml.sorted_mergeAll`).  So the documents of an environment are
in order however it was filled (`Config.sorted_apply`), and what they come to is as well.
-/

set_option autoImplicit false

namespace PollTunnel
namespace Toml

/-! ## Tables with distinct keys -/

mutual

/-- Each key stands once in every table of a value. -/
def isDistinct : Toml → Bool
  | .table entries => distinctKeys entries
  | .string _ | .integer _ | .real _ | .boolean _ | .datetime _ | .array _ => true

/-- Each key stands once in a table, and in every table below it. -/
def distinctKeys : Table → Bool
  | [] => true
  | (key, value) :: rest => (get? key rest).isNone && isDistinct value && distinctKeys rest

end

theorem distinctKeys_cons {key : String} {value : Toml} {rest : Table} :
    distinctKeys ((key, value) :: rest) = true ↔
      get? key rest = none ∧ isDistinct value = true ∧ distinctKeys rest = true := by
  simp [distinctKeys, and_assoc]

theorem isDistinct_of_get? {table : Table} (h : distinctKeys table = true) {key : String}
    {value : Toml} (hvalue : get? key table = some value) : isDistinct value = true := by
  induction table with
  | nil => cases hvalue
  | cons entry rest ih =>
    obtain ⟨k, v⟩ := entry
    obtain ⟨-, hfirst, hrest⟩ := distinctKeys_cons.1 h
    by_cases hk : k = key
    · have hv : v = value := by simpa [get?, hk] using hvalue
      exact hv ▸ hfirst
    · exact ih hrest (by simpa [get?, hk] using hvalue)

/-! ## Tables in order -/

mutual

/-- Every table of a value has its entries in the order of their keys. -/
def isSorted : Toml → Bool
  | .table entries => sorted entries
  | .string _ | .integer _ | .real _ | .boolean _ | .datetime _ | .array _ => true

/-- The entries of a table stand in the order of their keys, and so do those of every table below
it. -/
def sorted : Table → Bool
  | [] => true
  | (key, value) :: rest => rest.all (fun e => key < e.1) && isSorted value && sorted rest

end

theorem sorted_cons {key : String} {value : Toml} {rest : Table} :
    sorted ((key, value) :: rest) = true ↔
      (∀ e ∈ rest, key < e.1) ∧ isSorted value = true ∧ sorted rest = true := by
  simp [sorted, and_assoc]

theorem get?_eq_none {key : String} {table : Table} (h : ∀ e ∈ table, key < e.1) :
    get? key table = none := by
  induction table with
  | nil => rfl
  | cons entry rest ih =>
    obtain ⟨k, v⟩ := entry
    obtain ⟨hfirst, hrest⟩ := List.forall_mem_cons.1 h
    have hne : k ≠ key := fun heq => String.lt_irrefl key (heq ▸ hfirst)
    rw [get?, if_neg hne]
    exact ih hrest

theorem isSorted_of_get? {table : Table} (h : sorted table = true) {key : String} {value : Toml}
    (hvalue : get? key table = some value) : isSorted value = true := by
  induction table with
  | nil => simp [get?] at hvalue
  | cons entry rest ih =>
    obtain ⟨k, v⟩ := entry
    obtain ⟨-, hfirst, hrest⟩ := sorted_cons.1 h
    by_cases hk : k = key
    · have hv : v = value := by simpa [get?, hk] using hvalue
      exact hv ▸ hfirst
    · exact ih hrest (by simpa [get?, hk] using hvalue)

mutual

theorem isDistinct_of_isSorted : {value : Toml} → isSorted value = true → isDistinct value = true
  | .table _, h => distinctKeys_of_sorted h
  | .string _, _ | .integer _, _ | .real _, _ | .boolean _, _ | .datetime _, _ | .array _, _ => rfl

/-- **A table in order has no key twice**, at any depth. -/
theorem distinctKeys_of_sorted : {table : Table} → sorted table = true → distinctKeys table = true
  | [], _ => rfl
  | (_, _) :: _, h =>
    have hcons := sorted_cons.1 h
    distinctKeys_cons.2 ⟨get?_eq_none hcons.1, isDistinct_of_isSorted hcons.2.1,
      distinctKeys_of_sorted hcons.2.2⟩

end

/-! ## Setting a key -/

theorem mem_set {key : String} {value : Toml} {table : Table} {e : String × Toml}
    (h : e ∈ set key value table) : e = (key, value) ∨ e ∈ table := by
  induction table with
  | nil => exact .inl (List.mem_singleton.1 h)
  | cons entry rest ih =>
    obtain ⟨k, v⟩ := entry
    rw [set] at h
    by_cases hk : k = key
    · rw [if_pos hk] at h
      exact (List.mem_cons.1 h).imp id (List.mem_cons_of_mem _)
    · rw [if_neg hk] at h
      by_cases hlt : key < k
      · rw [if_pos hlt] at h
        exact List.mem_cons.1 h
      · rw [if_neg hlt] at h
        obtain rfl | hrest := List.mem_cons.1 h
        · exact .inr List.mem_cons_self
        · exact (ih hrest).imp id (List.mem_cons_of_mem _)

theorem sorted_set {table : Table} (h : sorted table = true) (key : String) {value : Toml}
    (hvalue : isSorted value = true) : sorted (set key value table) = true := by
  induction table with
  | nil => exact sorted_cons.2 ⟨fun e he => absurd he List.not_mem_nil, hvalue, rfl⟩
  | cons entry rest ih =>
    obtain ⟨k, v⟩ := entry
    obtain ⟨hless, hv, hrest⟩ := sorted_cons.1 h
    rw [set]
    by_cases hk : k = key
    · rw [if_pos hk]
      exact sorted_cons.2 ⟨hk ▸ hless, hvalue, hrest⟩
    · rw [if_neg hk]
      by_cases hlt : key < k
      · rw [if_pos hlt]
        have hall : ∀ e ∈ (k, v) :: rest, key < e.1 :=
          List.forall_mem_cons.2 ⟨hlt, fun e he => String.lt_trans hlt (hless e he)⟩
        exact sorted_cons.2 ⟨hall, hvalue, h⟩
      · rw [if_neg hlt]
        refine sorted_cons.2 ⟨fun e he => ?_, hv, ih hrest⟩
        obtain rfl | hold := mem_set he
        · exact Std.lt_of_le_of_ne (String.not_lt.1 hlt) hk
        · exact hless e hold

/-! ## Laying tables over each other -/

mutual

theorem isSorted_overlay {under : Option Toml}
    (hunder : ∀ value, under = some value → isSorted value = true) :
    {value : Toml} → isSorted value = true → isSorted (overlay under value) = true
  | .table incoming, h => by
    unfold overlay
    split
    · rename_i existing
      exact sorted_merge (hunder _ rfl) h
    · exact h
  | .string _, _ | .integer _, _ | .real _, _ | .boolean _, _ | .datetime _, _ | .array _, _ => rfl

/-- **A table laid over another leaves both in order.** -/
theorem sorted_merge {base : Table} (hbase : sorted base = true) :
    {upper : Table} → sorted upper = true → sorted (merge base upper) = true
  | [], _ => hbase
  | (key, _) :: _, h => by
    obtain ⟨-, hvalue, hrest⟩ := sorted_cons.1 h
    rw [merge]
    have hunder : ∀ value, get? key base = some value → isSorted value = true := by
      intro value hbelow
      exact isSorted_of_get? hbase hbelow
    exact sorted_merge (sorted_set hbase key (isSorted_overlay hunder hvalue)) hrest

end

theorem sorted_mergeAll {tables : List Table} (h : ∀ t ∈ tables, sorted t = true) :
    sorted (mergeAll tables) = true := by
  suffices hall : ∀ base, sorted base = true → sorted (tables.foldl merge base) = true from
    hall [] rfl
  induction tables with
  | nil => exact fun base hbase => hbase
  | cons table rest ih =>
    obtain ⟨htable, hrest⟩ := List.forall_mem_cons.1 h
    exact fun base hbase => ih hrest _ (sorted_merge hbase htable)

/-! ## Tables in the making -/

namespace Outline

mutual

/-- The values in an outline are in order.  Its arrays do not matter, since they are laid over
others as a whole. -/
def isSorted : Outline → Bool
  | .value v => v.isSorted
  | .table _ entries => holdSorted entries
  | .tables _ => true

/-- The values in the entries of an outline are in order. -/
def holdSorted : Entries → Bool
  | [] => true
  | (_, item) :: rest => isSorted item && holdSorted rest

end

theorem holdSorted_cons {key : String} {item : Outline} {rest : Entries} :
    holdSorted ((key, item) :: rest) = true ↔ isSorted item = true ∧ holdSorted rest = true := by
  simp [holdSorted]

mutual

theorem isSorted_finish : {item : Outline} → isSorted item = true → item.finish.isSorted = true
  | .value _, h => h
  | .table _ _, h => sorted_finishTable h
  | .tables _, _ => rfl

/-- **What entries have come to is in order**, in whatever order they were written. -/
theorem sorted_finishTable :
    {entries : Entries} → holdSorted entries = true → sorted (finishTable entries) = true
  | [], _ => rfl
  | (key, _) :: _, h =>
    have hcons := holdSorted_cons.1 h
    sorted_set (sorted_finishTable hcons.2) key (isSorted_finish hcons.1)

end

theorem holdSorted_put {entries : Entries} (h : holdSorted entries = true) (key : String)
    {item : Outline} (hitem : isSorted item = true) : holdSorted (put key item entries) = true := by
  induction entries with
  | nil => exact holdSorted_cons.2 ⟨hitem, rfl⟩
  | cons entry rest ih =>
    obtain ⟨k, v⟩ := entry
    obtain ⟨hv, hrest⟩ := holdSorted_cons.1 h
    rw [put]
    by_cases hk : k = key
    · rw [if_pos hk]
      exact holdSorted_cons.2 ⟨hitem, hrest⟩
    · rw [if_neg hk]
      exact holdSorted_cons.2 ⟨hv, ih hrest⟩

theorem isSorted_of_find? {entries : Entries} (h : holdSorted entries = true) {key : String}
    {item : Outline} (hitem : find? key entries = some item) : isSorted item = true := by
  induction entries with
  | nil => cases hitem
  | cons entry rest ih =>
    obtain ⟨k, v⟩ := entry
    obtain ⟨hv, hrest⟩ := holdSorted_cons.1 h
    by_cases hk : k = key
    · have hsame : v = item := by simpa [find?, hk] using hitem
      exact hsame ▸ hv
    · exact ih hrest (by simpa [find?, hk] using hitem)

/-- A change leaves values in order that were so. -/
def KeepsSorted (change : Entries → Option Entries) : Prop :=
  ∀ before after, holdSorted before = true → change before = some after → holdSorted after = true

theorem KeepsSorted.belowHeader {change : Entries → Option Entries} (h : KeepsSorted change)
    (path : List String) : KeepsSorted (Outline.belowHeader change · path) := by
  induction path with
  | nil => exact h
  | cons key path ih =>
    intro before after hbefore hafter
    simp only [Outline.belowHeader] at hafter
    split at hafter
    · obtain ⟨inner, hinner, rfl⟩ := by simpa [Option.bind_eq_some_iff] using hafter
      exact holdSorted_put hbefore key (ih [] inner rfl hinner)
    · rename_i origin below hfound
      obtain ⟨inner, hinner, rfl⟩ := by simpa [Option.bind_eq_some_iff] using hafter
      have hbelow : holdSorted below = true := isSorted_of_find? hbefore hfound
      exact holdSorted_put hbefore key (ih below inner hbelow hinner)
    · obtain ⟨inner, -, rfl⟩ := by simpa [Option.bind_eq_some_iff] using hafter
      exact holdSorted_put hbefore key rfl
    · simp at hafter

theorem KeepsSorted.belowDots {change : Entries → Option Entries} (h : KeepsSorted change)
    (path : List String) : KeepsSorted (Outline.belowDots change · path) := by
  induction path with
  | nil => exact h
  | cons key path ih =>
    intro before after hbefore hafter
    simp only [Outline.belowDots] at hafter
    split at hafter
    · obtain ⟨inner, hinner, rfl⟩ := by simpa [Option.bind_eq_some_iff] using hafter
      exact holdSorted_put hbefore key (ih [] inner rfl hinner)
    · simp at hafter
    · rename_i below hfound
      obtain ⟨inner, hinner, rfl⟩ := by simpa [Option.bind_eq_some_iff] using hafter
      have hbelow : holdSorted below = true := isSorted_of_find? hbefore hfound
      exact holdSorted_put hbefore key (ih below inner hbelow hinner)
    · rename_i below hfound
      split at hafter
      · simp at hafter
      · obtain ⟨inner, hinner, rfl⟩ := by simpa [Option.bind_eq_some_iff] using hafter
        have hbelow : holdSorted below = true := isSorted_of_find? hbefore hfound
        exact holdSorted_put hbefore key (ih below inner hbelow hinner)
    · split at hafter
      · simp at hafter
      · obtain ⟨inner, -, rfl⟩ := by simpa [Option.bind_eq_some_iff] using hafter
        exact holdSorted_put hbefore key rfl
    · simp at hafter

theorem keepsSorted_addDotted (keys : List String) {v : Toml} (hv : v.isSorted = true) :
    KeepsSorted (addDotted keys v) := by
  intro before after hbefore hafter
  rw [addDotted] at hafter
  split at hafter
  · simp at hafter
  · rename_i key _
    have hadd : KeepsSorted (add key v) := by
      intro entries added hentries hadded
      rw [add] at hadded
      split at hadded
      · simp at hadded
      · obtain rfl := Option.some.inj hadded
        exact holdSorted_put hentries key hv
    exact hadd.belowDots keys.dropLast before after hbefore hafter

theorem keepsSorted_openTable (key : String) : KeepsSorted (openTable key) := by
  intro before after hbefore hafter
  rw [openTable] at hafter
  split at hafter
  · obtain rfl := Option.some.inj hafter
    exact holdSorted_put hbefore key rfl
  · rename_i below hfound
    obtain rfl := Option.some.inj hafter
    have hbelow : holdSorted below = true := isSorted_of_find? hbefore hfound
    exact holdSorted_put hbefore key hbelow
  · simp at hafter

theorem keepsSorted_openElement (key : String) : KeepsSorted (openElement key) := by
  intro before after hbefore hafter
  rw [openElement] at hafter
  split at hafter
  · obtain rfl := Option.some.inj hafter
    exact holdSorted_put hbefore key rfl
  · obtain rfl := Option.some.inj hafter
    exact holdSorted_put hbefore key rfl
  · simp at hafter

end Outline

/-! ## Documents -/

theorem isSorted_of_word? {n : Int} {v : Toml} (h : word? n = some v) : v.isSorted = true := by
  rw [word?] at h
  split at h
  · obtain rfl := Option.some.inj h
    rfl
  · simp at h

theorem isSorted_of_based? {base : Nat} {isDigit : Char → Bool} {digitValue : Char → Nat}
    {cs : List Char} {v : Toml} (h : based? base isDigit digitValue cs = some v) :
    v.isSorted = true := by
  rw [based?] at h
  split at h
  · exact isSorted_of_word? h
  · simp at h

theorem isSorted_of_integer? {cs : List Char} {v : Toml} (h : integer? cs = some v) :
    v.isSorted = true := by
  unfold integer? at h
  split at h
  · exact isSorted_of_based? h
  · exact isSorted_of_based? h
  · exact isSorted_of_based? h
  · dsimp only at h
    split at h
    · exact isSorted_of_word? h
    · simp at h

theorem isSorted_of_real? {cs : List Char} {v : Toml} (h : real? cs = some v) :
    v.isSorted = true := by
  unfold real? at h
  dsimp only at h
  split at h
  · obtain rfl := Option.some.inj h
    rfl
  · split at h
    · obtain rfl := Option.some.inj h
      rfl
    · split at h
      · split at h
        · split at h
          · simp at h
          · obtain rfl := Option.some.inj h
            rfl
        · simp at h
      · simp at h

theorem isSorted_of_datetime? {cs : List Char} {v : Toml} (h : datetime? cs = some v) :
    v.isSorted = true := by
  unfold datetime? at h
  split at h
  · obtain rfl := Option.some.inj h
    rfl
  · split at h
    · obtain ⟨time, -, h⟩ := Option.bind_eq_some_iff.1 h
      obtain ⟨offset, -, h⟩ := Option.bind_eq_some_iff.1 h
      obtain rfl := Option.some.inj h
      rfl
    · simp at h
  · split at h
    · obtain rfl := Option.some.inj h
      rfl
    · simp at h

theorem isSorted_of_scalar? {cs : List Char} {v : Toml} (h : scalar? cs = some v) :
    v.isSorted = true := by
  unfold scalar? at h
  split at h
  · obtain rfl := Option.some.inj h
    rfl
  · split at h
    · obtain rfl := Option.some.inj h
      rfl
    · split at h
      · rename_i hdatetime
        obtain rfl := Option.some.inj h
        exact isSorted_of_datetime? hdatetime
      · split at h
        · rename_i hreal
          obtain rfl := Option.some.inj h
          exact isSorted_of_real? hreal
        · exact isSorted_of_integer? h

namespace Reader

/-- What is read as a value is in order, and the entries of a table in braces are so as well. -/
theorem isSorted_of_value? (fuel : Nat) :
    (∀ depth cs v rest, value? fuel depth cs = some (v, rest) → v.isSorted = true) ∧
      ∀ depth before cs after rest, Outline.holdSorted before = true →
        pairs? fuel depth before cs = some (after, rest) → Outline.holdSorted after = true := by
  induction fuel with
  | zero =>
    constructor
    · intro depth cs v rest h
      simp [value?] at h
    · intro depth before cs after rest hbefore h
      simp [pairs?] at h
  | succ fuel ih =>
    obtain ⟨hvalue, hpairs⟩ := ih
    constructor
    · intro depth cs v rest h
      unfold value? at h
      split at h
      · obtain ⟨_, -, heq⟩ := Option.map_eq_some_iff.1 h
        cases heq
        rfl
      · obtain ⟨_, -, heq⟩ := Option.map_eq_some_iff.1 h
        cases heq
        rfl
      · split at h
        · simp at h
        · obtain ⟨_, -, heq⟩ := Option.map_eq_some_iff.1 h
          cases heq
          rfl
      · split at h
        · simp at h
        · split at h
          · obtain ⟨rfl, -⟩ := Prod.mk.inj (Option.some.inj h)
            rfl
          · obtain ⟨⟨entries, _⟩, hentries, heq⟩ := Option.map_eq_some_iff.1 h
            cases heq
            exact Outline.sorted_finishTable (hpairs _ _ _ _ _ rfl hentries)
      · obtain ⟨_, hscalar, heq⟩ := Option.map_eq_some_iff.1 h
        cases heq
        exact isSorted_of_scalar? hscalar
    · intro depth before cs after rest hbefore h
      unfold pairs? at h
      split at h
      · rename_i keys _ _
        split at h
        · simp at h
        · rename_i v _ hv
          split at h
          · simp at h
          · rename_i added hadded
            have hsorted : Outline.holdSorted added = true :=
              Outline.keepsSorted_addDotted keys (hvalue _ _ _ _ hv) before added hbefore hadded
            split at h
            · exact hpairs _ _ _ _ _ hsorted h
            · obtain ⟨rfl, -⟩ := Prod.mk.inj (Option.some.inj h)
              exact hsorted
            · simp at h
      · simp at h

theorem holdSorted_begin {s next : State} (h : Outline.holdSorted s.entries = true)
    {keys : List String} {enter : String → Outline.Entries → Option Outline.Entries}
    (henter : ∀ key, Outline.KeepsSorted (enter key)) (hnext : s.begin keys enter = some next) :
    Outline.holdSorted next.entries = true := by
  obtain ⟨key, -, hkey⟩ := Option.bind_eq_some_iff.1 hnext
  obtain ⟨entries, hentries, heq⟩ := Option.bind_eq_some_iff.1 hkey
  cases heq
  exact (henter key).belowHeader keys.dropLast s.entries entries h hentries

theorem holdSorted_assign {s next : State} (h : Outline.holdSorted s.entries = true)
    {keys : List String} {v : Toml} (hv : v.isSorted = true)
    (hnext : s.assign keys v = some next) : Outline.holdSorted next.entries = true := by
  obtain ⟨entries, hentries, heq⟩ := Option.bind_eq_some_iff.1 hnext
  cases heq
  exact (Outline.keepsSorted_addDotted keys hv).belowHeader s.section_ s.entries entries h hentries

/-- **Whatever lines come, the values of a document are in order.** -/
theorem holdSorted_lines? (fuel : Nat) {s last : State} {cs : List Char}
    (h : Outline.holdSorted s.entries = true) (hlines : lines? fuel s cs = some last) :
    Outline.holdSorted last.entries = true := by
  induction fuel generalizing s cs with
  | zero => cases hlines
  | succ fuel ih =>
    unfold lines? at hlines
    split at hlines
    · obtain rfl := Option.some.inj hlines
      exact h
    · obtain ⟨_, -, hrest⟩ := Option.bind_eq_some_iff.1 hlines
      exact ih h hrest
    · exact ih h hlines
    · obtain ⟨_, -, hrest⟩ := Option.bind_eq_some_iff.1 hlines
      exact ih h hrest
    · split at hlines
      · obtain ⟨next, hnext, hmore⟩ := Option.bind_eq_some_iff.1 hlines
        obtain ⟨_, -, hrest⟩ := Option.bind_eq_some_iff.1 hmore
        exact ih (holdSorted_begin h Outline.keepsSorted_openElement hnext) hrest
      · simp at hlines
    · split at hlines
      · obtain ⟨next, hnext, hmore⟩ := Option.bind_eq_some_iff.1 hlines
        obtain ⟨_, -, hrest⟩ := Option.bind_eq_some_iff.1 hmore
        exact ih (holdSorted_begin h Outline.keepsSorted_openTable hnext) hrest
      · simp at hlines
    · split at hlines
      · obtain ⟨⟨v, _⟩, hv, hmore⟩ := Option.bind_eq_some_iff.1 hlines
        obtain ⟨next, hnext, hmore⟩ := Option.bind_eq_some_iff.1 hmore
        obtain ⟨_, -, hrest⟩ := Option.bind_eq_some_iff.1 hmore
        have hsorted : v.isSorted = true := (isSorted_of_value? _).1 _ _ _ _ hv
        exact ih (holdSorted_assign h hsorted hnext) hrest
      · simp at hlines

end Reader

/-- **Every document is a table in order.** -/
theorem read?_sorted {text : String} {table : Table} (h : read? text = some table) :
    sorted table = true := by
  obtain ⟨s, hs, rfl⟩ := Option.map_eq_some_iff.1 h
  exact Outline.sorted_finishTable (Reader.holdSorted_lines? _ rfl hs)

end Toml

namespace Config

/-! ## Environments -/

namespace Environment

/-- The documents of an environment are tables in order. -/
def Sorted (e : Environment) : Prop := ∀ source ∈ e.sources, Toml.sorted source.table = true

theorem Sorted.distinctKeys {e : Environment} (h : e.Sorted) :
    ∀ source ∈ e.sources, Toml.distinctKeys source.table = true := fun source hsource =>
  Toml.distinctKeys_of_sorted (h source hsource)

theorem Sorted.merged {e : Environment} (h : e.Sorted) : Toml.sorted e.merged = true :=
  Toml.sorted_mergeAll (List.forall_mem_map.2 h)

theorem Sorted.add {e : Environment} (h : e.Sorted) {source : Source}
    (hsource : Toml.sorted source.table = true) : (e.add source).Sorted :=
  List.forall_mem_append.2 ⟨h, List.forall_mem_singleton.2 hsource⟩

end Environment

theorem sorted_loadTable {loader : Loader} {location : Location} {table : Toml.Table}
    (h : loadTable loader location = .ok (some table)) : Toml.sorted table = true := by
  rw [loadTable] at h
  split at h
  · simp at h
  · simp at h
  · split at h
    · rename_i hread
      cases h
      exact Toml.read?_sorted hread
    · simp at h

theorem sorted_applyOverlays (loader : Loader) (base : Location) {a : Applied}
    (h : a.environment.Sorted) (profiles : List String) :
    (applyOverlays loader base a profiles).environment.Sorted := by
  induction profiles generalizing a with
  | nil => exact h
  | cons profile rest ih =>
    simp only [applyOverlays]
    split
    · exact h
    · rename_i hload
      exact ih (h.add (sorted_loadTable hload))
    · exact ih h

/-- **Documents that are applied to an environment are in order**, also where it ends with an error.
-/
theorem sorted_apply (loader : Loader) (additional : List String) {e : Environment} (h : e.Sorted)
    (location : Location) : (apply loader additional e location).environment.Sorted := by
  simp only [apply]
  split
  · exact h
  · exact h
  · rename_i hload
    split
    · exact h
    · exact sorted_applyOverlays loader location (h.add (sorted_loadTable hload)) _

end Config
end PollTunnel
