import PollTunnel.Proofs.Layers.Fitting

/-!
# The configuration that a table describes

Where binding succeeds, every part of the configuration is decided by one path of the table: it is
what the value there stands for, or the default if there is none (`described`).

A key decides a part of a section if its field is the only one that changes the part (`Owns`).  The
order of the entries and whatever else is in the table then make no difference to it
(`Owns.bindTable`).  What stands at the paths of the settings therefore decides the whole outcome,
and of a table that stands at such a path not even the entries are seen (`ofTable_congr`).

`Environment.bindsSettings` puts this together with the judgement over misfits, for the merged
documents of an environment.
-/

set_option autoImplicit false

namespace PollTunnel
namespace Toml

/-! ## What values stand for -/

/-- The list of texts that a value stands for. -/
def texts? : Toml → Option (List String)
  | .array items => items.mapM text?
  | _ => none

/-- The truth value that a value stands for. -/
def truth? : Toml → Option Bool
  | .boolean b => some b
  | _ => none

/-- The natural number that a value stands for. -/
def natural? : Toml → Option Nat
  | .integer n => if 0 ≤ n then some n.toNat else none
  | _ => none

/-- What stands at a path, or else this. -/
def told {α : Type} (table : Table) (path : List String) (value : Toml → Option α) (default : α) :
    α :=
  ((at? table path).bind value).getD default

theorem bind_eq_told {α : Type} {table : Table} {path : List String} {value : Toml → Option α} :
    (at? table path).bind value = told table path (fun v => (value v).map some) none := by
  rw [told]
  cases at? table path with
  | none => rfl
  | some v => cases h : value v <;> simp [h]

theorem below?_append (v : Toml) (p q : List String) :
    below? v (p ++ q) = (below? v p).bind (below? · q) := by
  induction p generalizing v with
  | nil => cases v <;> simp [below?]
  | cons key p ih =>
    cases v with
    | table entries =>
      simp only [List.cons_append, below?_table, at?_cons, Option.bind_assoc, ih]
    | _ => rfl

theorem isSorted_of_below? {v w : Toml} (hv : v.isSorted = true) {path : List String}
    (hw : below? v path = some w) : w.isSorted = true := by
  induction path generalizing v with
  | nil =>
    obtain rfl : v = w := by simpa [below?] using hw
    exact hv
  | cons key path ih =>
    cases v with
    | table entries =>
      rw [below?_table, at?_cons, Option.bind_eq_some_iff] at hw
      obtain ⟨first, hfirst, hw⟩ := hw
      exact ih (isSorted_of_get? hv hfirst) hw
    | _ => cases hw

/-! ## What is seen of a value -/

/-- The entries of a table are not seen. -/
def SeesMark {β : Type} (f : Toml → β) : Prop := ∀ v w, mark v = mark w → f v = f w

theorem seesMark_of_table {β : Type} {f : Toml → β}
    (h : ∀ entries, f (.table entries) = f (.table [])) : SeesMark f := by
  intro v w hmark
  cases v <;> cases w <;> simp_all [mark]

theorem SeesMark.map_eq {β : Type} {f : Toml → β} (hf : SeesMark f) {t u : Table}
    {path : List String} (h : mark? t path = mark? u path) :
    (at? t path).map f = (at? u path).map f := by
  rw [mark?, mark?] at h
  cases ht : at? t path <;> cases hu : at? u path <;> simp [ht, hu] at h ⊢
  exact hf _ _ h

theorem told_congr {α : Type} {value : Toml → Option α} (hvalue : SeesMark value) {t u : Table}
    {path : List String} (h : mark? t path = mark? u path) (default : α) :
    told t path value default = told u path value default := by
  have hmap := hvalue.map_eq h
  rw [told, told]
  cases ht : at? t path <;> cases hu : at? u path <;> simp_all

end Toml

namespace Config
namespace Binding

variable {α σ : Type} {fields : List (Field σ)} {key : String} {value : Toml → Option α}
  {get : σ → α}

@[simp] theorem text_eq_ok {expected : String} {v : Toml} {s : String} :
    text expected v = .ok s ↔ v.text? = some s := by
  rw [text_eq]
  cases v.text? <;> simp [wrongType]

@[simp] theorem texts_eq_ok {v : Toml} {read : List String} :
    texts v = .ok read ↔ v.texts? = some read := by
  cases v with
  | array items =>
    rcases mapM_text items with ⟨-, all, hread, htexts⟩ | ⟨-, htexts, m, hm, -⟩
    · simp [texts, Toml.texts?, hread, htexts]
    · simp [texts, Toml.texts?, hm, htexts]
  | _ => simp [texts, Toml.texts?, wrongType]

@[simp] theorem truth_eq_ok {v : Toml} {b : Bool} : truth v = .ok b ↔ v.truth? = some b := by
  cases v <;> simp [truth, Toml.truth?, wrongType]

@[simp] theorem natural_eq_ok {bound : Nat} {expected : String} {v : Toml} {n : Nat} :
    natural bound expected v = .ok n ↔ v.natural? = some n ∧ n < bound := by
  cases v with
  | integer i =>
    by_cases h : 0 ≤ i
    · obtain ⟨k, rfl⟩ := Int.eq_ofNat_of_zero_le h
      by_cases hk : k < bound
      · simp [natural, Toml.natural?, hk]
        omega
      · simp [natural, Toml.natural?, hk]
        omega
    · simp [natural, Toml.natural?, h]
  | _ => simp [natural, Toml.natural?, wrongType]

/-! ## Parts of a section -/

/-- A part is what its value stands for, or as it was if there is no value. -/
def Took (value : Toml → Option α) (v : Option Toml) (before after : α) : Prop :=
  match v with
  | none => after = before
  | some v => value v = some after

@[simp] theorem took_none {before after : α} : Took value none before after ↔ after = before :=
  Iff.rfl

@[simp] theorem took_some {v : Toml} {before after : α} :
    Took value (some v) before after ↔ value v = some after := Iff.rfl

/-- Of all fields the one of this key changes a part of the section, and makes it what the value
stands for. -/
structure Owns (fields : List (Field σ)) (key : String) (value : Toml → Option α) (get : σ → α) :
    Prop where
  known : ∃ f ∈ fields, f.key = key
  store : ∀ f ∈ fields, ∀ v s next, f.store v s = .ok next →
    if f.key = key then value v = some (get next) else get next = get s

theorem Owns.bindEntry (h : Owns fields key value get) {s next : σ} {k : String} {v : Toml}
    (hbind : bindEntry fields s k v = .ok next) :
    if k = key then value v = some (get next) else get next = get s := by
  rw [Binding.bindEntry] at hbind
  split at hbind
  · next hnone =>
    cases hbind
    obtain ⟨f, hf, hkey⟩ := h.known
    have hne : f.key ≠ k := by simpa using List.find?_eq_none.1 hnone f hf
    rw [if_neg fun heq => hne (hkey.trans heq.symm)]
  · next f hfound =>
    obtain rfl : f.key = k := by simpa using List.find?_some hfound
    cases hstore : f.store v s with
    | ok a =>
      rw [hstore] at hbind
      cases hbind
      exact h.store f (List.mem_of_find?_eq_some hfound) v s next hstore
    | error m => rw [hstore] at hbind; cases hbind

/-- **A part of a section depends on what its key has, and on nothing else in the table.** -/
theorem Owns.bindTable (h : Owns fields key value get) {table : Toml.Table}
    (htable : Toml.sorted table = true) {s last : σ} (hbind : bindTable fields s table = .ok last) :
    Took value (Toml.get? key table) (get s) (get last) := by
  induction table generalizing s with
  | nil => cases hbind; rfl
  | cons entry rest ih =>
    obtain ⟨k, v⟩ := entry
    obtain ⟨hlater, -, hrest⟩ := Toml.sorted_cons.1 htable
    rw [Binding.bindTable] at hbind
    split at hbind
    · cases hbind
    · next next hentry =>
      have hlast := ih hrest hbind
      have hnext := h.bindEntry hentry
      rw [Toml.get?]
      by_cases hkey : k = key
      · subst hkey
        rw [if_pos rfl] at hnext ⊢
        rw [Toml.get?_eq_none hlater] at hlast
        exact hlast ▸ hnext
      · rw [if_neg hkey] at hnext ⊢
        exact hnext ▸ hlast

theorem Took.eq {v : Option Toml} {before after : α} (h : Took value v before after) :
    after = (v.bind value).getD before := by
  cases v with
  | none => exact h
  | some v => rw [Option.bind_some, h]; rfl

@[simp] theorem field_key {read : Toml → Except Misfit α} {put : α → σ → σ} :
    (field key read put).key = key := rfl

@[simp] theorem field_store_eq_ok {read : Toml → Except Misfit α} {put : α → σ → σ} {v : Toml}
    {s next : σ} :
    (field key read put).store v s = .ok next ↔ ∃ a, read v = .ok a ∧ next = put a s := by
  simp only [field]
  cases read v <;> simp [Except.map, eq_comm]

/-- The section that a value stands for. -/
def sectionOf? (name : String) (fields : List (Field σ)) (default : σ) (v : Toml) : Option σ :=
  (sectionOf name fields default v).toOption

theorem sectionOf?_eq_some {name : String} {default part : σ} {v : Toml} :
    sectionOf? name fields default v = some part ↔ sectionOf name fields default v = .ok part := by
  rw [sectionOf?]
  cases sectionOf name fields default v <;> simp [Except.toOption]

/-- **A part of a section is decided by the path that leads to it through the section.** -/
theorem Owns.below (h : Owns fields key value get) {name : String} {default part : σ}
    {t : Toml.Table} (ht : Toml.sorted t = true) {path : List String}
    (hname : ∀ items, Toml.at? t path ≠ some (.array items))
    (hsection : Took (sectionOf? name fields default) (Toml.at? t path) default part) :
    Took value (Toml.at? t (path ++ [key])) (get default) (get part) := by
  simp only [← Toml.below?_table] at hname hsection ⊢
  rw [Toml.below?_append]
  cases hv : Toml.below? (.table t) path with
  | none =>
    rw [hv] at hsection
    exact congrArg get hsection
  | some v =>
    rw [hv] at hname hsection
    have hread : sectionOf name fields default v = .ok part := sectionOf?_eq_some.1 hsection
    cases v with
    | table entries =>
      have hsorted : (Toml.table t).isSorted = true := ht
      exact h.bindTable (Toml.isSorted_of_below? hsorted hv) hread
    | array items => exact absurd rfl (hname items)
    | _ => cases hread

theorem Took.told {name : String} {default part : σ} {t : Toml.Table} {path : List String}
    (h : Took (sectionOf? name fields default) (Toml.at? t path) default part)
    (ht : Toml.sorted t = true) (hname : ∀ items, Toml.at? t path ≠ some (.array items))
    ⦃β : Type⦄ ⦃key : String⦄ ⦃value : Toml → Option β⦄ (get : σ → β)
    (hown : Owns fields key value get) :
    get part = Toml.told t (path ++ [key]) value (get default) :=
  (hown.below ht hname h).eq

end Binding

open Binding Toml

/-- The configuration that a table describes: what stands at the path of each setting, and the
defaults for the rest.  What the table has for the active profiles does not count. -/
def described (t : Toml.Table) (activeProfiles : List String) : Config :=
  let default : Config := {}
  { server :=
      { bindAddress := told t ["server", "bind_address"] text? default.server.bindAddress
        path := told t ["server", "path"] text? default.server.path
        targetHost := told t ["server", "target_host"] text? default.server.targetHost
        targetPort := told t ["server", "target_port"] natural? default.server.targetPort
        longPollMillis :=
          told t ["server", "long_poll_timeout_ms"] natural? default.server.longPollMillis
        disconnectMillis :=
          told t ["server", "disconnect_timeout_ms"] natural? default.server.disconnectMillis
        maxBodySize := told t ["server", "max_body_size"] natural? default.server.maxBodySize }
    client :=
      { remoteUrl := told t ["client", "remote_url"] text? default.client.remoteUrl
        localPort := told t ["client", "local_port"] natural? default.client.localPort
        bearerToken := (at? t ["client", "bearer_token"]).bind text? }
    security :=
      { secret := (at? t ["security", "secret"]).bind text?
        secretHeader :=
          told t ["security", "secret_header_name"] text? default.security.secretHeader
        jwt := (at? t ["security", "jwt"]).map fun _ =>
          let default : Config.Jwt := {}
          { secret := (at? t ["security", "jwt", "secret"]).bind text?
            publicKeyLocation := (at? t ["security", "jwt", "public_key_location"]).bind text?
            algorithms := told t ["security", "jwt", "jws_algorithms"] texts? default.algorithms
            issuer := (at? t ["security", "jwt", "issuer"]).bind text?
            audiences := told t ["security", "jwt", "audiences"] texts? default.audiences
            leewaySeconds :=
              told t ["security", "jwt", "leeway_secs"] natural? default.leewaySeconds } }
    observability :=
      { logLevel := told t ["observability", "log_level"] text? default.observability.logLevel
        jsonLogs := told t ["observability", "json_logs"] truth? default.observability.jsonLogs
        metricsEnabled :=
          told t ["observability", "metrics_enabled"] truth? default.observability.metricsEnabled
        metricsAddress :=
          told t ["observability", "metrics_address"] text? default.observability.metricsAddress }
    activeProfiles }

theorem at?_ne_array {t : Toml.Table} (hname : ByName settings (.table t)) {path : List String}
    (name : String) (hmem : (path, Kind.group name) ∈ settings) (items : List Toml) :
    at? t path ≠ some (.array items) := fun h =>
  hname path name items hmem (by rw [below?_table, h])

section

variable {t : Toml.Table} (ht : Toml.sorted t = true) (hname : ByName settings (.table t))
  (activeProfiles : List String)
include ht hname

theorem server_eq {part : Server}
    (h : Took (sectionOf? "ServerConfig" serverFields {}) (at? t ["server"]) {} part) :
    part = (described t activeProfiles).server := by
  have told := h.told ht (at?_ne_array hname "ServerConfig" (by decide))
  cases part
  simp only [described, Server.mk.injEq]
  refine ⟨told Server.bindAddress ?_, told Server.path ?_, told Server.targetHost ?_,
    told Server.targetPort ?_, told Server.longPollMillis ?_, told Server.disconnectMillis ?_,
    told Server.maxBodySize ?_⟩
  all_goals constructor <;> simp +contextual [serverFields, port, long, size]

theorem client_eq {part : Client}
    (h : Took (sectionOf? "ClientConfig" clientFields {}) (at? t ["client"]) {} part) :
    part = (described t activeProfiles).client := by
  have told := h.told ht (at?_ne_array hname "ClientConfig" (by decide))
  cases part
  simp only [described, bind_eq_told, Client.mk.injEq]
  refine ⟨told Client.remoteUrl ?_, told Client.localPort ?_, told Client.bearerToken ?_⟩
  all_goals constructor <;> simp +contextual [clientFields, port]

theorem jwt_eq {v : Toml} (hv : at? t ["security", "jwt"] = some v) {part : Jwt}
    (h : sectionOf "JwtConfig" jwtFields {} v = .ok part) :
    some part = (described t activeProfiles).security.jwt := by
  have htook : Took (sectionOf? "JwtConfig" jwtFields {}) (at? t ["security", "jwt"]) {} part :=
    hv ▸ sectionOf?_eq_some.2 h
  have told := htook.told ht (at?_ne_array hname "JwtConfig" (by decide))
  cases part
  simp only [described, bind_eq_told, hv, Option.map_some, Option.some.injEq, Jwt.mk.injEq]
  refine ⟨told Jwt.secret ?_, told Jwt.publicKeyLocation ?_, told Jwt.algorithms ?_,
    told Jwt.issuer ?_, told Jwt.audiences ?_, told Jwt.leewaySeconds ?_⟩
  all_goals constructor <;> simp +contextual [jwtFields, long]

theorem security_eq {part : Security}
    (h : Took (sectionOf? "SecurityConfig" securityFields {}) (at? t ["security"]) {} part) :
    part = (described t activeProfiles).security := by
  have hplain : ∀ items, at? t ["security"] ≠ some (.array items) :=
    at?_ne_array hname "SecurityConfig" (by decide)
  have told := h.told ht hplain
  have hown : Owns securityFields "jwt"
      (fun v => (sectionOf? "JwtConfig" jwtFields {} v).map some) Security.jwt := by
    constructor <;> simp +contextual [securityFields, sectionOf?_eq_some]
  have hjwt : part.jwt = (described t activeProfiles).security.jwt := by
    have htook : Took _ (at? t ["security", "jwt"]) none part.jwt := hown.below ht hplain h
    cases hv : at? t ["security", "jwt"] with
    | none =>
      rw [hv] at htook
      simpa [described, hv] using htook
    | some v =>
      rw [hv] at htook
      obtain ⟨jwt, hread, heq⟩ := Option.map_eq_some_iff.1 htook
      rw [← heq]
      exact jwt_eq ht hname activeProfiles hv (sectionOf?_eq_some.1 hread)
  cases part
  simp only [described, bind_eq_told, Security.mk.injEq] at hjwt ⊢
  refine ⟨told Security.secret ?_, told Security.secretHeader ?_, hjwt⟩
  all_goals constructor <;> simp +contextual [securityFields]

theorem observability_eq {part : Observability}
    (h : Took (sectionOf? "ObservabilityConfig" observabilityFields {}) (at? t ["observability"]) {}
      part) :
    part = (described t activeProfiles).observability := by
  have told := h.told ht (at?_ne_array hname "ObservabilityConfig" (by decide))
  cases part
  simp only [described, Observability.mk.injEq]
  refine ⟨told Observability.logLevel ?_, told Observability.jsonLogs ?_,
    told Observability.metricsEnabled ?_, told Observability.metricsAddress ?_⟩
  all_goals constructor <;> simp +contextual [observabilityFields, -Bool.exists_bool]

/-- **Binding takes each setting from the table, or else its default.** -/
theorem eq_described {c : Config} (h : ofTable t activeProfiles = .ok c) :
    c = described t activeProfiles := by
  cases hbind : bindTable Binding.fields {} t with
  | error m =>
    rw [ofTable, hbind] at h
    cases h
  | ok bound =>
    have took {σ : Type} {fields : List (Binding.Field σ)} {name key : String} {default : σ}
        (get : Config → σ) (hown : Owns Binding.fields key (sectionOf? name fields default) get) :
        Took (sectionOf? name fields default) (at? t [key]) (get {}) (get bound) :=
      hown.bindTable ht hbind
    rw [ofTable, hbind] at h
    obtain rfl : { bound with activeProfiles } = c := by simpa [Except.map] using h
    have hserver := server_eq ht hname activeProfiles (took Config.server ?_)
    have hclient := client_eq ht hname activeProfiles (took Config.client ?_)
    have hsecurity := security_eq ht hname activeProfiles (took Config.security ?_)
    have hobservability :=
      observability_eq ht hname activeProfiles (took Config.observability ?_)
    · rw [hserver, hclient, hsecurity, hobservability]
      rfl
    all_goals constructor <;> simp +contextual [Binding.fields, sectionOf?_eq_some]

end

/-! ## What makes no difference -/

theorem seesMark_check (k : Kind) : SeesMark k.check := by
  cases k <;> exact seesMark_of_table fun _ => rfl

theorem described_congr {t u : Toml.Table}
    (h : ∀ path ∈ settings.map Prod.fst, mark? t path = mark? u path)
    (activeProfiles : List String) :
    described t activeProfiles = described u activeProfiles := by
  have htext : SeesMark text? := seesMark_of_table fun _ => rfl
  have htexts : SeesMark texts? := seesMark_of_table fun _ => rfl
  have htruth : SeesMark truth? := seesMark_of_table fun _ => rfl
  have hnatural : SeesMark natural? := seesMark_of_table fun _ => rfl
  have hsome : SeesMark fun v => v.text?.map some := seesMark_of_table fun _ => rfl
  have told {α : Type} {value : Toml → Option α} (hvalue : SeesMark value) {path : List String}
      (hpath : path ∈ settings.map Prod.fst) (default : α) :
      told t path value default = told u path value default :=
    told_congr hvalue (h path hpath) default
  have present (jwt : Jwt) : (at? t ["security", "jwt"]).map (fun _ => jwt) =
      (at? u ["security", "jwt"]).map fun _ => jwt :=
    SeesMark.map_eq (fun _ _ _ => rfl) (h _ (by decide))
  simp (disch := decide) only [described, bind_eq_told, told htext, told htexts, told htruth,
    told hnatural, told hsome, present]

theorem breaks_congr {t u : Toml.Table}
    (h : ∀ path ∈ settings.map Prod.fst, mark? t path = mark? u path) {m : Misfit}
    (hm : Breaks settings (.table t) m) : Breaks settings (.table u) m := by
  obtain ⟨k, v, hmem, hv, hcheck⟩ := hm
  rw [below?_table] at hv
  have hsame := (seesMark_check k).map_eq (h _ (List.mem_map_of_mem hmem))
  rw [hv, Option.map_some, eq_comm, Option.map_eq_some_iff] at hsame
  obtain ⟨w, hw, heq⟩ := hsame
  exact ⟨k, w, hmem, by rw [below?_table, hw], heq.trans hcheck⟩

theorem ofTable_congr {t u : Toml.Table} (ht : Toml.sorted t = true) (hu : Toml.sorted u = true)
    (htname : ByName settings (.table t)) (huname : ByName settings (.table u))
    (h : ∀ path ∈ settings.map Prod.fst, mark? t path = mark? u path)
    (activeProfiles : List String) : ofTable t activeProfiles = ofTable u activeProfiles := by
  have hback : ∀ path ∈ settings.map Prod.fst, mark? u path = mark? t path := fun path hpath =>
    (h path hpath).symm
  have hjudged : Judged (Breaks settings (.table t)) (ofTable u activeProfiles) :=
    (ofTable_judged hu huname activeProfiles).congr fun m => ⟨breaks_congr hback, breaks_congr h⟩
  rcases (ofTable_judged ht htname activeProfiles).both hjudged with
    ⟨c, d, hc, hd⟩ | ⟨m, hm, hm'⟩
  · rw [hc, hd, eq_described ht htname activeProfiles hc, eq_described hu huname activeProfiles hd,
      described_congr h]
  · rw [hm, hm']

/-! ## Environments -/

namespace Environment

/-- No section is written as an array, as is so where all of them are tables
(`byName_of_tables`). -/
def ByName (e : Environment) : Prop :=
  ∀ path name items, (path, Kind.group name) ∈ settings →
    Toml.at? e.merged path ≠ some (.array items)

/-- The merged documents have a value at a path that is not as required there. -/
def Offends (e : Environment) (path : List String) : Prop :=
  ∃ k v, (path, k) ∈ settings ∧ Toml.at? e.merged path = some v ∧ ¬ k.Fits v

/-- **What binding makes of the merged documents.** -/
structure BindsSettings (e : Environment) : Prop where
  /-- There is a configuration if every setting that the documents have is as required. -/
  succeeds : (∃ c, e.bind = .ok c) ↔ ∀ path, ¬ e.Offends path
  /-- It has what the documents say, and defaults for the rest; the active profiles are those of the
  environment. -/
  described : ∀ c, e.bind = .ok c → c = described e.merged e.activeProfiles
  /-- Other keys make no difference, at any level. -/
  unknown : ∀ other : Environment, other.Sorted → other.ByName →
    other.activeProfiles = e.activeProfiles →
    (∀ path k, (path, k) ∈ settings → mark? other.merged path = mark? e.merged path) →
    other.bind = e.bind
  /-- Otherwise the first offending path is reported, with what is wrong there. -/
  fails : ∀ m, e.bind = .error m →
    (∃ k v, (m.path, k) ∈ settings ∧ Toml.at? e.merged m.path = some v ∧
      k.check v = .error { words := m.words }) ∧
    e.Offends m.path ∧ (∀ path, e.Offends path → path = m.path ∨ m.path < path) ∧
    m.message = m.words ++ "\n" ++ ("in `" ++ ".".intercalate m.path ++ "`\n")

/-- A section that is a table is not written as an array. -/
theorem byName_of_tables {e : Environment} (h : ∀ setting ∈ settings, setting.2.isGroup = true →
    (Toml.at? e.merged setting.1).all Toml.isTable = true) : e.ByName := by
  intro path name items hmem hvalue
  have htable := h _ hmem rfl
  rw [hvalue] at htable
  cases htable

theorem ByName.table {e : Environment} (h : e.ByName) :
    Binding.ByName settings (.table e.merged) := fun path name items hmem =>
  below?_table e.merged path ▸ h path name items hmem

/-- To offend is to have a misfit. -/
theorem offends_iff {e : Environment} {path : List String} :
    e.Offends path ↔ ∃ words, Breaks settings (.table e.merged) ⟨words, path⟩ := by
  simp only [Offends, Breaks, below?_table]
  constructor
  · rintro ⟨k, v, hmem, hv, hnot⟩
    rcases check_cases k v with ⟨hfits, -⟩ | ⟨-, ⟨words, _⟩, hcheck, rfl⟩
    · exact absurd hfits hnot
    · exact ⟨words, k, v, hmem, hv, hcheck⟩
  · rintro ⟨words, k, v, hmem, hv, hcheck⟩
    refine ⟨k, v, hmem, hv, fun hfits => ?_⟩
    rw [check_eq_ok.2 hfits] at hcheck
    cases hcheck

/-- **Binding takes every setting from the merged documents, or else its default.** -/
theorem bindsSettings (e : Environment) (h : e.Sorted) (hname : e.ByName) : e.BindsSettings := by
  have hjudged : Judged (Breaks settings (.table e.merged)) e.bind :=
    ofTable_judged h.merged hname.table e.activeProfiles
  constructor
  · cases hbind : e.bind with
    | ok c =>
      rw [hbind] at hjudged
      refine iff_of_true ⟨c, rfl⟩ fun path hoffends => ?_
      obtain ⟨words, hm⟩ := offends_iff.1 hoffends
      exact hjudged _ hm
    | error m =>
      rw [hbind] at hjudged
      refine iff_of_false (by simp) fun hnone => ?_
      exact hnone m.path (offends_iff.2 ⟨m.words, hjudged.isMisfit⟩)
  · exact fun c hc => eq_described h.merged hname.table e.activeProfiles hc
  · intro other hsorted hother hactive hsame
    rw [bind, hactive]
    refine ofTable_congr hsorted.merged h.merged hother.table hname.table ?_ e.activeProfiles
    simpa using hsame
  · intro m hm
    rw [hm] at hjudged
    obtain ⟨k, v, hmem, hv, hcheck⟩ := hjudged.isMisfit
    rw [below?_table] at hv
    have hpath : m.path ≠ [] := (by decide : ∀ setting ∈ settings, setting.1 ≠ []) _ hmem
    refine ⟨⟨k, v, hmem, hv, hcheck⟩, offends_iff.2 ⟨m.words, hjudged.isMisfit⟩, ?_, ?_⟩
    · intro path hoffends
      obtain ⟨words, hbreaks⟩ := offends_iff.1 hoffends
      exact (hjudged.least _ hbreaks).imp_left (congrArg Misfit.path)
    · rw [Misfit.message, if_neg hpath]

deriving instance DecidableEq for Except

/-- A document with settings, a key that no section knows, and one on top that does not fit. -/
def settledLoader : Loader := fun location =>
  match location.text with
  | "base" => .ok (some
      "[server]\ntarget_port = 8000\ncolour = 'red'\n[security.jwt]\nissuer = 'me'")
  | "top" => .ok (some "[client]\nlocal_port = 'any'\n[server]\nmax_body_size = -1")
  | _ => .ok none

/-- The client's section comes before the server's, so its port is what is reported. -/
theorem bindsSettings_settled :
    let base := (apply settledLoader [] {} (Bytes.ofString "base")).environment
    let e := (apply settledLoader [] base (Bytes.ofString "top")).environment
    base.Sorted ∧ base.ByName ∧ base.BindsSettings ∧ e.Sorted ∧ e.ByName ∧ e.BindsSettings ∧
      base.bind = .ok
        { server := { targetPort := 8000 }, security := { jwt := some { issuer := some "me" } } } ∧
      e.bind = .error
        { words := "invalid type: string \"any\", expected u16"
          path := ["client", "local_port"] } := by
  intro base e
  have hnone : ({} : Environment).Sorted := fun source hsource => absurd hsource List.not_mem_nil
  have hbase : base.Sorted := sorted_apply _ _ hnone _
  have he : e.Sorted := sorted_apply _ _ hbase _
  have hbaseName : base.ByName := byName_of_tables (by decide +kernel)
  have heName : e.ByName := byName_of_tables (by decide +kernel)
  exact ⟨hbase, hbaseName, bindsSettings base hbase hbaseName, he, heName,
    bindsSettings e he heName, by decide +kernel, by decide +kernel⟩

/-- **A date is accepted where a text is required.**  It is bound to its normal form, though it is
no text in the document. -/
theorem bind_date_as_text :
    let value := Toml.datetime "1979-05-27"
    let e : Environment :=
      { sources := [{ name := "arguments", table := [("server", .table [("path", value)])] }] }
    e.Sorted ∧
      (∀ setting ∈ settings, setting.2.isGroup = true →
        (Toml.at? e.merged setting.1).all Toml.isTable = true) ∧
      (["server", "path"], Kind.text "a string") ∈ settings ∧
      Toml.at? e.merged ["server", "path"] = some value ∧ (∀ s, value ≠ .string s) ∧
      ∃ c, e.bind = .ok c ∧ c.server.path = "1979-05-27" := by
  intro value e
  have hsorted : e.Sorted := List.forall_mem_singleton.2 rfl
  exact ⟨hsorted, by decide +kernel, by decide, rfl, nofun, _, rfl, rfl⟩

end Environment
end Config
end PollTunnel
