import PollTunnel.Proofs.Layers.Merging

/-!
# Whether a table fits the schema, and what is said if it does not

The schema is a list of settings: a path of keys, and what is required of the value there
(`Config.settings`).  A table fits if every setting that it has is as required; which keys it has
besides does not matter.

Binding goes through a table entry by entry and stops at the first value that does not fit.  The
entries stand in the order of their keys, and a section is gone through where it stands, so that is
the value with the least path among all that do not fit.  The outcome is thus `Judged` by the set of
misfits: success if there are none, and otherwise the first of them.

* `Kind.Fits` — what a setting requires, in terms of the value alone.
* `Breaks` — the misfits of a value and of all that stands below it.
* `Asks` — the fields of a section, and the settings they stand for, in step.
* `Asks.bindTable`, `ofTable_judged` — what binding makes of a table is judged by its misfits.

A section may also be written as an array, its items are then the fields in the order of their
declaration.  There are no keys to go by in that case, and this file leaves it out (`ByName`).
-/

set_option autoImplicit false

namespace PollTunnel

/-- The text that a value stands for: a date or a time does as well, for its normal form. -/
def Toml.text? : Toml → Option String
  | .string s => some s
  | .datetime d => some d
  | _ => none

theorem Toml.mem_of_get? {key : String} {v : Toml} {table : Toml.Table}
    (h : Toml.get? key table = some v) : (key, v) ∈ table := by
  induction table with
  | nil => cases h
  | cons entry rest ih =>
    obtain ⟨k, w⟩ := entry
    rw [Toml.get?] at h
    split at h <;> simp_all

namespace Config
namespace Binding

/-! ## What is required of a value -/

/-- What is required of the value of a setting; some of it has a name in messages. -/
inductive Kind where
  | text (expected : String)
  | texts
  | truth
  /-- A natural number below a bound. -/
  | natural (bound : Nat) (expected : String)
  /-- A table of further settings. -/
  | group (name : String)
  deriving DecidableEq

def Kind.isGroup : Kind → Bool
  | .group _ => true
  | _ => false

/-- A value is as required. -/
def Kind.Fits : Kind → Toml → Prop
  | .text _, v => ∃ s, v.text? = some s
  | .texts, v => ∃ items, v = .array items ∧ ∀ item ∈ items, ∃ s, item.text? = some s
  | .truth, v => ∃ b, v = .boolean b
  | .natural bound _, v => ∃ n : Nat, v = .integer n ∧ n < bound
  | .group _, v => ∃ entries, v = .table entries

/-- What is said of a value: nothing if it is as required. -/
def Kind.check : Kind → Toml → Except Misfit Unit
  | .text expected, v => (Binding.text expected v).map fun _ => ()
  | .texts, v => (Binding.texts v).map fun _ => ()
  | .truth, v => (Binding.truth v).map fun _ => ()
  | .natural bound expected, v => (Binding.natural bound expected v).map fun _ => ()
  | .group name, v => if v.isTable then .ok () else wrongType v ("struct " ++ name)

theorem text_eq (expected : String) (v : Toml) :
    text expected v = match v.text? with
      | some s => .ok s
      | none => wrongType v expected := by
  cases v <;> rfl

/-- Either every item of a list is a text and the list is read, or what is wrong has no path. -/
theorem mapM_text (items : List Toml) :
    ((∀ item ∈ items, ∃ s, item.text? = some s) ∧
        ∃ read, items.mapM (text "a string") = .ok read ∧ items.mapM Toml.text? = some read) ∨
      (¬ ∀ item ∈ items, ∃ s, item.text? = some s) ∧ items.mapM Toml.text? = none ∧
        ∃ m, items.mapM (text "a string") = .error m ∧ m.path = [] := by
  induction items with
  | nil => exact Or.inl ⟨nofun, [], rfl, rfl⟩
  | cons item items ih =>
    simp only [List.mapM_cons, text_eq, List.forall_mem_cons]
    cases hitem : item.text? with
    | none => exact Or.inr ⟨by simp, rfl, _, rfl, rfl⟩
    | some s =>
      rcases ih with ⟨hall, read, hread, htexts⟩ | ⟨hnot, htexts, m, hm, hpath⟩
      · exact Or.inl ⟨⟨⟨s, rfl⟩, hall⟩, s :: read, by rw [hread]; rfl, by rw [htexts]; rfl⟩
      · exact Or.inr ⟨fun h => hnot h.2, by rw [htexts]; rfl, m, by rw [hm]; rfl, hpath⟩

/-- A value is as required, or what is wrong with it has no path. -/
theorem check_cases (k : Kind) (v : Toml) :
    k.Fits v ∧ k.check v = .ok () ∨
      ¬ k.Fits v ∧ ∃ m, k.check v = .error m ∧ m.path = [] := by
  cases k with
  | text expected =>
    cases htext : v.text? <;> simp [Kind.Fits, Kind.check, text_eq, htext, wrongType, Except.map]
  | texts =>
    cases v with
    | array items =>
      rcases mapM_text items with ⟨hall, read, hread, -⟩ | ⟨hnot, -, m, hm, hpath⟩
      · exact Or.inl ⟨⟨items, rfl, hall⟩, by rw [Kind.check, texts, hread]; rfl⟩
      · refine Or.inr ⟨?_, m, by rw [Kind.check, texts, hm]; rfl, hpath⟩
        rintro ⟨_, heq, hall⟩
        cases heq
        exact hnot hall
    | _ => simp [Kind.Fits, Kind.check, texts, wrongType, Except.map]
  | truth => cases v <;> simp [Kind.Fits, Kind.check, truth, wrongType, Except.map]
  | natural bound expected =>
    cases v with
    | integer n =>
      by_cases h : 0 ≤ n ∧ n < bound
      · refine Or.inl ⟨⟨n.toNat, by rw [Int.toNat_of_nonneg h.1], by omega⟩, ?_⟩
        rw [Kind.check, natural, if_pos h]
        rfl
      · refine Or.inr ⟨?_, _, by rw [Kind.check, natural, if_neg h]; rfl, rfl⟩
        rintro ⟨n, heq, hn⟩
        cases heq
        exact h ⟨by omega, by omega⟩
    | _ => simp [Kind.Fits, Kind.check, natural, wrongType, Except.map]
  | group name => cases v <;> simp [Kind.Fits, Kind.check, Toml.isTable, wrongType]

theorem check_eq_ok {k : Kind} {v : Toml} : k.check v = .ok () ↔ k.Fits v := by
  rcases check_cases k v with ⟨hfits, hcheck⟩ | ⟨hnot, m, hcheck, -⟩ <;> simp [*]

theorem path_of_check {k : Kind} {v : Toml} {m : Misfit} (h : k.check v = .error m) :
    m.path = [] := by
  rcases check_cases k v with ⟨-, hcheck⟩ | ⟨-, n, hcheck, hpath⟩
  · cases hcheck.symm.trans h
  · cases hcheck.symm.trans h
    exact hpath

/-! ## Outcomes and misfits -/

/-- The misfit with the least path of all. -/
structure First (P : Misfit → Prop) (m : Misfit) : Prop where
  isMisfit : P m
  least : ∀ n, P n → n = m ∨ m.path < n.path

/-- There is a result if there are no misfits, and otherwise the first of them. -/
def Judged {α : Type} (P : Misfit → Prop) : Except Misfit α → Prop
  | .ok _ => ∀ m, ¬ P m
  | .error m => First P m

section

variable {α β : Type} {P Q : Misfit → Prop} {r : Except Misfit α}

theorem Judged.congr (h : Judged P r) (hiff : ∀ m, P m ↔ Q m) : Judged Q r := by
  obtain rfl : P = Q := funext fun m => propext (hiff m)
  exact h

theorem Judged.map (h : Judged P r) (f : α → β) : Judged P (r.map f) := by
  cases r <;> exact h

/-- Two outcomes with the same misfits are both results, or the same misfit. -/
theorem Judged.both {r' : Except Misfit β} (h : Judged P r) (h' : Judged P r') :
    (∃ a b, r = .ok a ∧ r' = .ok b) ∨ ∃ m, r = .error m ∧ r' = .error m := by
  cases r with
  | ok a =>
    cases r' with
    | ok b => exact Or.inl ⟨a, b, rfl, rfl⟩
    | error n => exact absurd h'.isMisfit (h n)
  | error m =>
    cases r' with
    | ok b => exact absurd h.isMisfit (h' m)
    | error n =>
      rcases h.least n h'.isMisfit with rfl | hlt
      · exact Or.inr ⟨n, rfl, rfl⟩
      · rcases h'.least m h.isMisfit with rfl | hgt
        · exact Or.inr ⟨m, rfl, rfl⟩
        · exact absurd hgt (List.lt_asymm hlt)

/-- Seen from the table above, the misfits keep their order. -/
theorem Judged.below (h : Judged P r) (key : String) :
    Judged (fun m => ∃ n, P n ∧ m = Misfit.below key n) (r.mapError (Misfit.below key)) := by
  cases r with
  | ok a =>
    rintro m ⟨n, hn, -⟩
    exact h n hn
  | error first =>
    refine ⟨⟨first, h.isMisfit, rfl⟩, ?_⟩
    rintro _ ⟨n, hn, rfl⟩
    rcases h.least n hn with rfl | hlt
    · exact Or.inl rfl
    · exact Or.inr (List.cons_lt_cons_iff.2 (Or.inr ⟨rfl, hlt⟩))

end

/-! ## Settings -/

/-- Paths of keys, and what is required there. -/
abbrev Settings := List (List String × Kind)

/-- The same settings, seen from the table above. -/
def Settings.below (key : String) (settings : Settings) : Settings :=
  settings.map fun setting => (key :: setting.1, setting.2)

theorem Settings.mem_below {key : String} {settings : Settings} {path : List String} {k : Kind} :
    (path, k) ∈ settings.below key ↔ ∃ rest, (rest, k) ∈ settings ∧ path = key :: rest := by
  simp [Settings.below, Prod.ext_iff, eq_comm]

/-- The misfits of a value and of all that stands below it. -/
def Breaks (settings : Settings) (v : Toml) (m : Misfit) : Prop :=
  ∃ k w, (m.path, k) ∈ settings ∧ Toml.below? v m.path = some w ∧
    k.check w = .error { words := m.words }

/-- No section is written as an array. -/
def ByName (settings : Settings) (v : Toml) : Prop :=
  ∀ path name items, (path, Kind.group name) ∈ settings →
    Toml.below? v path ≠ some (.array items)

/-- A reader is right about its settings. -/
def Judges {α : Type} (settings : Settings) (read : Toml → Except Misfit α) : Prop :=
  ∀ v, v.isSorted = true → ByName settings v → Judged (Breaks settings v) (read v)

theorem not_breaks_nil {v : Toml} {m : Misfit} : ¬ Breaks [] v m := fun ⟨_, _, hmem, _⟩ =>
  absurd hmem List.not_mem_nil

/-- A setting for the value itself adds what is wrong with it. -/
theorem breaks_own {k : Kind} {settings : Settings} {v : Toml} {m : Misfit} :
    Breaks (([], k) :: settings) v m ↔ k.check v = .error m ∨ Breaks settings v m := by
  obtain ⟨words, path⟩ := m
  constructor
  · rintro ⟨k', w, hmem, hw, hcheck⟩
    rcases List.mem_cons.1 hmem with heq | hmem
    · obtain ⟨rfl, rfl⟩ := Prod.mk.inj heq
      obtain rfl : v = w := by simpa [Toml.below?] using hw
      exact Or.inl hcheck
    · exact Or.inr ⟨k', w, hmem, hw, hcheck⟩
  · rintro (hcheck | ⟨k', w, hmem, hw, hcheck⟩)
    · obtain rfl : path = [] := path_of_check hcheck
      exact ⟨k, v, List.mem_cons_self, by simp [Toml.below?], hcheck⟩
    · exact ⟨k', w, List.mem_cons_of_mem _ hmem, hw, hcheck⟩

/-- A reader of a single value knows one setting. -/
theorem judges_single {α : Type} {k : Kind} {read : Toml → Except Misfit α}
    (h : ∀ v, k.check v = (read v).map fun _ => ()) : Judges [([], k)] read := by
  intro v _ _
  have hbreaks : ∀ m, Breaks [([], k)] v m ↔ read v = .error m := by
    intro m
    rw [breaks_own, or_iff_left not_breaks_nil, h]
    cases read v <;> simp [Except.map]
  cases hread : read v with
  | ok a => intro m hm; simp [hbreaks, hread] at hm
  | error m =>
    refine ⟨(hbreaks m).2 hread, fun n hn => Or.inl ?_⟩
    simpa [hbreaks, hread, eq_comm] using hn

/-! ## Fields -/

/-- The fields of a section, and the settings they stand for. -/
inductive Asks {σ : Type} : List (Field σ) → Settings → Prop
  | nil : Asks [] []
  | cons {f : Field σ} {fields : List (Field σ)} {one rest : Settings}
      (hone : ∀ s, Judges one (f.store · s)) (hrest : Asks fields rest) :
      Asks (f :: fields) (one.below f.key ++ rest)

variable {σ : Type} {fields : List (Field σ)} {settings : Settings}

theorem Judges.store {α : Type} {read : Toml → Except Misfit α} (h : Judges settings read)
    (key : String) (put : α → σ → σ) (s : σ) :
    Judges settings ((field key read put).store · s) := fun v hv hname => (h v hv hname).map _

/-- A field for a single value. -/
theorem Asks.setting {α : Type} {k : Kind} {read : Toml → Except Misfit α}
    (hread : Judges [([], k)] read) {key : String} {put : α → σ → σ} (h : Asks fields settings) :
    Asks (field key read put :: fields) (([key], k) :: settings) :=
  .cons (hread.store key put) h

/-- Every setting begins with the key of a field. -/
theorem Asks.head (h : Asks fields settings) {path : List String} {k : Kind}
    (hmem : (path, k) ∈ settings) : ∃ f ∈ fields, ∃ rest, path = f.key :: rest := by
  induction h with
  | nil => cases hmem
  | @cons f fields one rest hone hrest ih =>
    rcases List.mem_append.1 hmem with hmem | hmem
    · obtain ⟨below, -, rfl⟩ := Settings.mem_below.1 hmem
      exact ⟨f, List.mem_cons_self, below, rfl⟩
    · obtain ⟨g, hg, below, rfl⟩ := ih hmem
      exact ⟨g, List.mem_cons_of_mem _ hg, below, rfl⟩

theorem breaks_append {one rest : Settings} {v : Toml} {m : Misfit} :
    Breaks (one ++ rest) v m ↔ Breaks one v m ∨ Breaks rest v m := by
  simp only [Breaks, List.mem_append, or_and_right, exists_or]

/-- What stands at a path in a table of one entry. -/
theorem below?_entry {key : String} {v w : Toml} {path : List String} (hpath : path ≠ []) :
    Toml.below? (.table [(key, v)]) path = some w ↔
      ∃ rest, path = key :: rest ∧ Toml.below? v rest = some w := by
  obtain ⟨first, rest, rfl⟩ := List.exists_cons_of_ne_nil hpath
  by_cases h : key = first <;> simp [Toml.at?_cons, Toml.get?, h, eq_comm]

/-- The misfits below one entry. -/
theorem breaks_below {key : String} {v : Toml} {m : Misfit} :
    Breaks (settings.below key) (.table [(key, v)]) m ↔
      ∃ n, Breaks settings v n ∧ m = Misfit.below key n := by
  constructor
  · obtain ⟨words, path⟩ := m
    rintro ⟨k, w, hmem, hw, hcheck⟩
    obtain ⟨rest, hrest, rfl⟩ := Settings.mem_below.1 hmem
    obtain ⟨_, heq, hw⟩ := (below?_entry (List.cons_ne_nil _ _)).1 hw
    cases heq
    exact ⟨⟨words, rest⟩, ⟨k, w, hrest, hw, hcheck⟩, rfl⟩
  · rintro ⟨⟨words, path⟩, ⟨k, w, hmem, hw, hcheck⟩, rfl⟩
    exact ⟨k, w, Settings.mem_below.2 ⟨path, hmem, rfl⟩,
      (below?_entry (List.cons_ne_nil _ _)).2 ⟨path, rfl, hw⟩, hcheck⟩

/-- Settings that begin with other keys are not in a table of one entry. -/
theorem not_breaks_of_ne {key : String} {v : Toml} {m : Misfit}
    (h : ∀ path k, (path, k) ∈ settings → ∃ first rest, path = first :: rest ∧ first ≠ key) :
    ¬ Breaks settings (.table [(key, v)]) m := by
  rintro ⟨k, w, hmem, hw, -⟩
  obtain ⟨first, rest, hpath, hne⟩ := h _ k hmem
  obtain ⟨_, heq, -⟩ := (below?_entry (hpath ▸ List.cons_ne_nil _ _)).1 hw
  exact hne (List.cons.inj (hpath.symm.trans heq)).1

/-- One entry is judged by the misfits at its key. -/
theorem Asks.bindEntry (h : Asks fields settings) (hkeys : (fields.map (·.key)).Nodup) (s : σ)
    {key : String} {v : Toml} (hv : v.isSorted = true)
    (hname : ByName settings (.table [(key, v)])) :
    Judged (Breaks settings (.table [(key, v)])) (bindEntry fields s key v) := by
  induction h with
  | nil =>
    rintro m ⟨k, w, hmem, -⟩
    cases hmem
  | @cons f fields one rest hone hrest ih =>
    obtain ⟨hnew, hkeys⟩ := List.nodup_cons.1 hkeys
    by_cases hkey : f.key = key
    · subst hkey
      have hfound : Binding.bindEntry (f :: fields) s f.key v =
          (f.store v s).mapError (Misfit.below f.key) := by
        simp [Binding.bindEntry]
      have hbelow : ByName one v := fun path name items hmem hw =>
        hname (f.key :: path) name items
          (List.mem_append_left _ (Settings.mem_below.2 ⟨path, hmem, rfl⟩))
          ((below?_entry (List.cons_ne_nil _ _)).2 ⟨path, rfl, hw⟩)
      rw [hfound]
      refine ((hone s v hv hbelow).below f.key).congr fun m => ?_
      rw [breaks_append, breaks_below, or_iff_left]
      refine not_breaks_of_ne fun path k hmem => ?_
      obtain ⟨g, hg, below, rfl⟩ := hrest.head hmem
      exact ⟨g.key, below, rfl, fun heq => hnew (List.mem_map.2 ⟨g, hg, heq⟩)⟩
    · have hfound : Binding.bindEntry (f :: fields) s key v =
          Binding.bindEntry fields s key v := by
        simp [Binding.bindEntry, hkey]
      rw [hfound]
      refine (ih hkeys fun path name items hmem => hname path name items
        (List.mem_append_right _ hmem)).congr fun m => ?_
      rw [breaks_append, or_iff_right]
      refine not_breaks_of_ne fun path k hmem => ?_
      obtain ⟨below, -, rfl⟩ := Settings.mem_below.1 hmem
      exact ⟨f.key, below, rfl, hkey⟩

/-! ## Tables -/

/-- A misfit of a table is at the key of one of its entries. -/
theorem Asks.head_of_breaks (h : Asks fields settings) {table : Toml.Table} {m : Misfit}
    (hm : Breaks settings (.table table) m) : ∃ e ∈ table, ∃ rest, m.path = e.1 :: rest := by
  obtain ⟨k, w, hmem, hw, -⟩ := hm
  obtain ⟨f, -, rest, hpath⟩ := h.head hmem
  rw [hpath, Toml.below?_table, Toml.at?_cons, Option.bind_eq_some_iff] at hw
  obtain ⟨v, hv, -⟩ := hw
  exact ⟨(f.key, v), Toml.mem_of_get? hv, rest, hpath⟩

/-- What stands at the path of a setting is below the first entry of a table, or in the rest. -/
theorem Asks.below?_cons (h : Asks fields settings) {key : String} {v w : Toml} {rest : Toml.Table}
    (hnew : Toml.get? key rest = none) {path : List String} {k : Kind}
    (hmem : (path, k) ∈ settings) :
    Toml.below? (.table ((key, v) :: rest)) path = some w ↔
      Toml.below? (.table [(key, v)]) path = some w ∨
        Toml.below? (.table rest) path = some w := by
  obtain ⟨f, -, below, rfl⟩ := h.head hmem
  by_cases hkey : key = f.key
  · subst hkey
    simp [Toml.at?_cons, Toml.get?, hnew]
  · simp [Toml.at?_cons, Toml.get?, hkey]

/-- The misfits of a table are those of its first entry, and those of the rest. -/
theorem Asks.breaks_cons (h : Asks fields settings) {key : String} {v : Toml} {rest : Toml.Table}
    (hnew : Toml.get? key rest = none) {m : Misfit} :
    Breaks settings (.table ((key, v) :: rest)) m ↔
      Breaks settings (.table [(key, v)]) m ∨ Breaks settings (.table rest) m := by
  constructor
  · rintro ⟨k, w, hmem, hw, hcheck⟩
    exact ((h.below?_cons hnew hmem).1 hw).imp (⟨k, w, hmem, ·, hcheck⟩) (⟨k, w, hmem, ·, hcheck⟩)
  · rintro (⟨k, w, hmem, hw, hcheck⟩ | ⟨k, w, hmem, hw, hcheck⟩)
    · exact ⟨k, w, hmem, (h.below?_cons hnew hmem).2 (Or.inl hw), hcheck⟩
    · exact ⟨k, w, hmem, (h.below?_cons hnew hmem).2 (Or.inr hw), hcheck⟩

/-- **A run through a table is judged by the misfits of the table.** -/
theorem Asks.bindTable (h : Asks fields settings) (hkeys : (fields.map (·.key)).Nodup) (s : σ)
    {table : Toml.Table} (htable : Toml.sorted table = true)
    (hname : ByName settings (.table table)) :
    Judged (Breaks settings (.table table)) (bindTable fields s table) := by
  induction table generalizing s with
  | nil =>
    intro m hm
    obtain ⟨e, he, -⟩ := h.head_of_breaks hm
    cases he
  | cons entry rest ih =>
    obtain ⟨key, v⟩ := entry
    obtain ⟨hlater, hv, hrest⟩ := Toml.sorted_cons.1 htable
    have hnew : Toml.get? key rest = none := Toml.get?_eq_none hlater
    have hentry := h.bindEntry hkeys s hv fun path name items hmem hw =>
      hname path name items hmem ((h.below?_cons hnew hmem).2 (Or.inl hw))
    rw [Binding.bindTable]
    cases hbind : Binding.bindEntry fields s key v with
    | ok next =>
      rw [hbind] at hentry
      have hjudged := ih next hrest fun path name items hmem hw =>
        hname path name items hmem ((h.below?_cons hnew hmem).2 (Or.inr hw))
      refine hjudged.congr fun m => ?_
      rw [h.breaks_cons hnew, or_iff_right (hentry m)]
    | error first =>
      rw [hbind] at hentry
      refine ⟨(h.breaks_cons hnew).2 (Or.inl hentry.isMisfit), fun m hm => ?_⟩
      rcases (h.breaks_cons hnew).1 hm with hm | hm
      · exact hentry.least m hm
      · -- the rest of the table has greater keys
        obtain ⟨e, he, below, hpath⟩ := h.head_of_breaks hentry.isMisfit
        obtain ⟨later, hmem, deep, hdeep⟩ := h.head_of_breaks hm
        obtain rfl := List.mem_singleton.1 he
        rw [hpath, hdeep]
        exact Or.inr (List.cons_lt_cons_iff.2 (Or.inl (hlater later hmem)))

/-- A value that is no table has nothing below it. -/
theorem Asks.not_breaks_of_plain (h : Asks fields settings) {v : Toml} (hv : v.isTable = false)
    {m : Misfit} : ¬ Breaks settings v m := by
  rintro ⟨k, w, hmem, hw, -⟩
  obtain ⟨f, -, below, hpath⟩ := h.head hmem
  rw [hpath] at hw
  cases v <;> simp [Toml.below?, Toml.isTable] at hw hv

/-- A section that is no array is a table, or the only misfit. -/
theorem Asks.judges_section (h : Asks fields settings) (hkeys : (fields.map (·.key)).Nodup)
    (name : String) (default : σ) :
    Judges (([], .group name) :: settings) (sectionOf name fields default) := by
  intro v hv hname
  cases hkind : v.isTable with
  | true =>
    obtain ⟨entries, rfl⟩ : ∃ entries, v = .table entries := by
      cases v <;> simp [Toml.isTable] at hkind ⊢
    have hbelow : ByName settings (.table entries) := fun path name items hmem =>
      hname path name items (List.mem_cons_of_mem _ hmem)
    refine (h.bindTable hkeys default hv hbelow).congr fun m => ?_
    rw [breaks_own, or_iff_right (by simp [Kind.check, Toml.isTable])]
  | false =>
    have hread : sectionOf name fields default v = wrongType v ("struct " ++ name) := by
      cases v with
      | array items => exact absurd rfl (hname [] name items List.mem_cons_self)
      | table entries => cases hkind
      | _ => rfl
    have hbreaks : ∀ m, Breaks (([], .group name) :: settings) v m ↔
        wrongType v ("struct " ++ name) = (.error m : Except Misfit Unit) := by
      intro m
      rw [breaks_own, or_iff_left (h.not_breaks_of_plain hkind)]
      simp [Kind.check, hkind]
    rw [hread]
    refine ⟨(hbreaks _).2 rfl, fun m hm => Or.inl ?_⟩
    simpa [wrongType, eq_comm] using (hbreaks m).1 hm

/-! ## The schema -/

/-- A section with its settings. -/
def Settings.group (key name : String) (settings : Settings) : Settings :=
  Settings.below key (([], .group name) :: settings)

/-- A field for a section. -/
theorem Asks.group {τ : Type} {inner : List (Field τ)} {below : Settings}
    (hinner : Asks inner below) (hkeys : (inner.map (·.key)).Nodup) {key name : String}
    {default : τ} {put : τ → σ → σ} (h : Asks fields settings) :
    Asks (field key (sectionOf name inner default) put :: fields)
      (Settings.group key name below ++ settings) :=
  .cons ((hinner.judges_section hkeys name default).store key put) h

theorem judges_text (expected : String) : Judges [([], .text expected)] (text expected) :=
  judges_single fun _ => rfl

theorem judges_texts : Judges [([], .texts)] texts := judges_single fun _ => rfl

theorem judges_truth : Judges [([], .truth)] truth := judges_single fun _ => rfl

theorem judges_natural (bound : Nat) (expected : String) :
    Judges [([], .natural bound expected)] (natural bound expected) :=
  judges_single fun _ => rfl

end Binding

open Binding

def serverSettings : Settings :=
  [(["bind_address"], .text "a string"),
    (["path"], .text "a string"),
    (["target_host"], .text "a string"),
    (["target_port"], .natural (Nat.pow 2 16) "u16"),
    (["long_poll_timeout_ms"], .natural (Nat.pow 2 64) "u64"),
    (["disconnect_timeout_ms"], .natural (Nat.pow 2 64) "u64"),
    (["max_body_size"], .natural (Nat.pow 2 64) "usize")]

def clientSettings : Settings :=
  [(["remote_url"], .text "a string"),
    (["local_port"], .natural (Nat.pow 2 16) "u16"),
    (["bearer_token"], .text "a string")]

def jwtSettings : Settings :=
  [(["secret"], .text "a string"),
    (["public_key_location"], .text "path string"),
    (["jws_algorithms"], .texts),
    (["issuer"], .text "a string"),
    (["audiences"], .texts),
    (["leeway_secs"], .natural (Nat.pow 2 64) "u64")]

def securitySettings : Settings :=
  [[(["secret"], .text "a string"), (["secret_header_name"], .text "a string")],
    Settings.group "jwt" "JwtConfig" jwtSettings].flatten

def observabilitySettings : Settings :=
  [(["log_level"], .text "a string"),
    (["json_logs"], .truth),
    (["metrics_enabled"], .truth),
    (["metrics_address"], .text "a string")]

/-- All settings, and the sections they are in. -/
def settings : Settings :=
  [Settings.group "server" "ServerConfig" serverSettings,
    Settings.group "client" "ClientConfig" clientSettings,
    Settings.group "security" "SecurityConfig" securitySettings,
    Settings.group "observability" "ObservabilityConfig" observabilitySettings,
    Settings.group "profiles" "ProfilesConfig" [(["active"], .texts)]].flatten

theorem asks_server : Asks serverFields serverSettings :=
  .setting (judges_text _) <| .setting (judges_text _) <| .setting (judges_text _) <|
    .setting (judges_natural _ _) <| .setting (judges_natural _ _) <|
    .setting (judges_natural _ _) <| .setting (judges_natural _ _) .nil

theorem asks_client : Asks clientFields clientSettings :=
  .setting (judges_text _) <| .setting (judges_natural _ _) <| .setting (judges_text _) .nil

theorem asks_jwt : Asks jwtFields jwtSettings :=
  .setting (judges_text _) <| .setting (judges_text _) <| .setting judges_texts <|
    .setting (judges_text _) <| .setting judges_texts <| .setting (judges_natural _ _) .nil

theorem asks_security : Asks securityFields securitySettings :=
  .setting (judges_text _) <| .setting (judges_text _) <| asks_jwt.group (by decide) .nil

theorem asks_observability : Asks observabilityFields observabilitySettings :=
  .setting (judges_text _) <| .setting judges_truth <| .setting judges_truth <|
    .setting (judges_text _) .nil

theorem asks_profiles : Asks profilesFields [(["active"], .texts)] := .setting judges_texts .nil

theorem asks_fields : Asks Binding.fields settings :=
  asks_server.group (by decide) <| asks_client.group (by decide) <|
    asks_security.group (by decide) <| asks_observability.group (by decide) <|
    asks_profiles.group (by decide) .nil

/-- **Binding a table is judged by its misfits.** -/
theorem ofTable_judged {table : Toml.Table} (htable : Toml.sorted table = true)
    (hname : ByName settings (.table table)) (activeProfiles : List String) :
    Judged (Breaks settings (.table table)) (ofTable table activeProfiles) :=
  (asks_fields.bindTable (by decide) {} htable hname).map _

end Config
end PollTunnel
