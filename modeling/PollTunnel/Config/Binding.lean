import PollTunnel.Config.Schema
import PollTunnel.Number.Shortest
import PollTunnel.Text.Quoted
import PollTunnel.Toml

/-!
# From tables to the configuration

A table is bound to a section field by field, in the order of its keys; a field that the table does
not name keeps its default, and a key that the section does not know is passed over.  The first
value that does not fit is reported with the path that leads to it.

An array may stand for a section: its items are the fields in the order of their declaration.
-/

set_option autoImplicit false

namespace PollTunnel
namespace Config

/-- A value that does not fit, and the keys that lead to it. -/
structure Misfit where
  words : String
  path : List String := []
  deriving DecidableEq, Repr, Inhabited

/-- The message for a misfit. -/
def Misfit.message (m : Misfit) : String :=
  m.words ++ "\n" ++
    (if m.path = [] then "" else "in `" ++ ".".intercalate m.path ++ "`\n")

namespace Binding

/-- What a value is, for a message. -/
def describe : Toml → String
  | .string s => "string " ++ Text.quoted s
  | .integer n => "integer `" ++ toString n ++ "`"
  | .real x => "floating point `" ++ Shortest.render Shortest.spoken x ++ "`"
  | .boolean b => "boolean `" ++ (if b then "true" else "false") ++ "`"
  | .datetime d => "string " ++ Text.quoted d
  | .array _ => "sequence"
  | .table _ => "map"

/-- The value has another type than the field. -/
def wrongType {α : Type} (v : Toml) (expected : String) : Except Misfit α :=
  .error { words := "invalid type: " ++ describe v ++ ", expected " ++ expected }

/-! ## Fields -/

/-- A text. -/
def text (expected : String) : Toml → Except Misfit String
  | .string s => .ok s
  | .datetime d => .ok d
  | v => wrongType v expected

/-- A truth value. -/
def truth : Toml → Except Misfit Bool
  | .boolean b => .ok b
  | v => wrongType v "a boolean"

/-- A natural number below a bound. -/
def natural (bound : Nat) (expected : String) : Toml → Except Misfit Nat
  | .integer n =>
    if 0 ≤ n ∧ n < bound then .ok n.toNat
    else
      .error { words := "invalid value: " ++ describe (.integer n) ++ ", expected " ++ expected }
  | v => wrongType v expected

def port : Toml → Except Misfit Nat := natural (Nat.pow 2 16) "u16"

def long : Toml → Except Misfit Nat := natural (Nat.pow 2 64) "u64"

def size : Toml → Except Misfit Nat := natural (Nat.pow 2 64) "usize"

/-- A list of texts. -/
def texts : Toml → Except Misfit (List String)
  | .array items => items.mapM (text "a string")
  | v => wrongType v "a sequence"

/-! ## Sections -/

/-- A field of a section: its key, and what a value does to the section. -/
structure Field (σ : Type) where
  key : String
  store : Toml → σ → Except Misfit σ

/-- A field that holds what a reader makes of its value. -/
def field {σ α : Type} (key : String) (read : Toml → Except Misfit α) (put : α → σ → σ) :
    Field σ :=
  ⟨key, fun v s => (read v).map fun a => put a s⟩

/-- The same misfit, seen from the table above. -/
def Misfit.below (key : String) (m : Misfit) : Misfit := { m with path := key :: m.path }

/-- Bind one entry of a table. -/
def bindEntry {σ : Type} (fields : List (Field σ)) (s : σ) (key : String) (v : Toml) :
    Except Misfit σ :=
  match fields.find? (·.key == key) with
  | none => .ok s
  | some f => (f.store v s).mapError (Misfit.below key)

/-- Bind the entries of a table in order. -/
def bindTable {σ : Type} (fields : List (Field σ)) (s : σ) : Toml.Table → Except Misfit σ
  | [] => .ok s
  | (key, v) :: rest =>
    match bindEntry fields s key v with
    | .error m => .error m
    | .ok s => bindTable fields s rest

/-- Bind the items of an array to the fields in order. -/
def bindItems {σ : Type} (length : Nat) : List (Field σ) → σ → List Toml → Except Misfit σ
  | _, s, [] => .ok s
  | [], _, _ :: _ =>
    .error { words := "invalid length " ++ toString length ++
      ", expected fewer elements in array" }
  | f :: fields, s, v :: rest =>
    match f.store v s with
    | .error m => .error m
    | .ok s => bindItems length fields s rest

/-- A section with these fields. -/
def sectionOf {σ : Type} (name : String) (fields : List (Field σ)) (default : σ) :
    Toml → Except Misfit σ
  | .table entries => bindTable fields default entries
  | .array items => bindItems items.length fields default items
  | v => wrongType v ("struct " ++ name)

/-! ## The schema -/

def serverFields : List (Field Server) :=
  [field "bind_address" (text "a string") fun a s => { s with bindAddress := a },
    field "path" (text "a string") fun a s => { s with path := a },
    field "target_host" (text "a string") fun a s => { s with targetHost := a },
    field "target_port" port fun a s => { s with targetPort := a },
    field "long_poll_timeout_ms" long fun a s => { s with longPollMillis := a },
    field "disconnect_timeout_ms" long fun a s => { s with disconnectMillis := a },
    field "max_body_size" size fun a s => { s with maxBodySize := a }]

def clientFields : List (Field Client) :=
  [field "remote_url" (text "a string") fun a s => { s with remoteUrl := a },
    field "local_port" port fun a s => { s with localPort := a },
    field "bearer_token" (text "a string") fun a s => { s with bearerToken := some a }]

def jwtFields : List (Field Jwt) :=
  [field "secret" (text "a string") fun a s => { s with secret := some a },
    field "public_key_location" (text "path string") fun a s =>
      { s with publicKeyLocation := some a },
    field "jws_algorithms" texts fun a s => { s with algorithms := a },
    field "issuer" (text "a string") fun a s => { s with issuer := some a },
    field "audiences" texts fun a s => { s with audiences := a },
    field "leeway_secs" long fun a s => { s with leewaySeconds := a }]

def securityFields : List (Field Security) :=
  [field "secret" (text "a string") fun a s => { s with secret := some a },
    field "secret_header_name" (text "a string") fun a s => { s with secretHeader := a },
    field "jwt" (sectionOf "JwtConfig" jwtFields {}) fun a s => { s with jwt := some a }]

def observabilityFields : List (Field Observability) :=
  [field "log_level" (text "a string") fun a s => { s with logLevel := a },
    field "json_logs" truth fun a s => { s with jsonLogs := a },
    field "metrics_enabled" truth fun a s => { s with metricsEnabled := a },
    field "metrics_address" (text "a string") fun a s => { s with metricsAddress := a }]

def profilesFields : List (Field (List String)) :=
  [field "active" texts fun a _ => a]

/-- The sections.  The profiles that documents declare are checked and then left to whoever
activates them. -/
def fields : List (Field Config) :=
  [field "server" (sectionOf "ServerConfig" serverFields {}) fun a c => { c with server := a },
    field "client" (sectionOf "ClientConfig" clientFields {}) fun a c => { c with client := a },
    field "security" (sectionOf "SecurityConfig" securityFields {}) fun a c =>
      { c with security := a },
    field "observability" (sectionOf "ObservabilityConfig" observabilityFields {}) fun a c =>
      { c with observability := a },
    field "profiles" (sectionOf "ProfilesConfig" profilesFields []) fun _ c => c]

end Binding

/-- The configuration that a table describes, with these profiles active. -/
def ofTable (table : Toml.Table) (activeProfiles : List String) : Except Misfit Config :=
  (Binding.bindTable Binding.fields {} table).map fun c => { c with activeProfiles }

end Config
end PollTunnel
