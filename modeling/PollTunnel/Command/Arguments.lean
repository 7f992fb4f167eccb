import PollTunnel.Number.Decimal

/-!
# Command lines

`Arguments.read` reads the arguments of the program: options that hold for every command, then the
name of a command, then the options of that command.

    devtunnel [--config FILE] [--profile NAME]... serve   [--bind ADDRESS] [--target-port PORT]
    devtunnel [--config FILE] [--profile NAME]... connect [--url URL] [--local-port PORT]

* The value of an option stands behind an equals sign, behind the option's letter, or in the next
  argument if that does not begin with a dash.  A single dash is a value.
* Every option but `--profile` is given at most once.
* Whatever asks for help or for the version ends the reading on the spot (`Stop`).
-/

set_option autoImplicit false

namespace PollTunnel
namespace Command

/-- Why reading ends without arguments to act on. -/
inductive Stop where
  /-- They make no sense. -/
  | usage
  | help
  | version
  deriving DecidableEq, Repr, Inhabited

/-- The status that the program then exits with. -/
def Stop.code : Stop → Nat
  | .usage => 2
  | .help | .version => 0

/-! ## Options -/

/-- An option with a value.  `store` says what the value does to what has been read before, unless
it does not fit. -/
structure Setting (σ : Type) where
  long : String
  short : Option Char := none
  store : String → σ → Option σ

/-- The options that may stand in one place. -/
structure Level (σ : Type) where
  settings : List (Setting σ)
  /-- The version may be asked for here. -/
  tellsVersion : Bool := false

/-- What a single argument is. -/
inductive Item (σ : Type) where
  /-- A word that stands for itself. -/
  | word
  /-- Two dashes, behind which there are only words. -/
  | divider
  | stop (why : Stop)
  /-- An option, with its value if that is part of the argument. -/
  | setting (setting : Setting σ) (value : Option String)

/-- A word, and no option. -/
def isWord (arg : String) : Bool := arg == "-" || arg.toList.head? != some '-'

namespace Level

variable {σ : Type}

/-- What an argument behind two dashes is. -/
def long (level : Level σ) (cs : List Char) : Item σ :=
  let name := String.ofList (cs.takeWhile (· ≠ '='))
  let value := (cs.dropWhile (· ≠ '=')).tail?.map String.ofList
  match level.settings.find? (·.long == name), value with
  | some setting, value => .setting setting value
  | none, none =>
    if name = "help" then .stop .help
    else if name = "version" ∧ level.tellsVersion then .stop .version
    else .stop .usage
  | none, some _ => .stop .usage

/-- What an argument behind one dash is. -/
def short (level : Level σ) (letter : Char) (more : List Char) : Item σ :=
  match level.settings.find? (·.short == some letter), more with
  | some setting, [] => .setting setting none
  | some setting, '=' :: value => .setting setting (some (String.ofList value))
  | some setting, value => .setting setting (some (String.ofList value))
  | none, _ =>
    if letter = 'h' then .stop .help
    else if letter = 'V' ∧ level.tellsVersion then .stop .version
    else .stop .usage

/-- What an argument is. -/
def classify (level : Level σ) (arg : String) : Item σ :=
  match arg.toList with
  | ['-', '-'] => .divider
  | '-' :: '-' :: name => level.long name
  | '-' :: letter :: more => level.short letter more
  | _ => .word

/-- Take a value, or stop if it does not fit. -/
def store (setting : Setting σ) (value : String) (s : σ) : Except Stop σ :=
  match setting.store value s with
  | some s => .ok s
  | none => .error .usage

/-- Read options up to the first word; that word and the arguments behind it are left. -/
def read (level : Level σ) (s : σ) : List String → Except Stop (σ × List String)
  | [] => .ok (s, [])
  | arg :: rest =>
    match level.classify arg, rest with
    | .word, _ => .ok (s, arg :: rest)
    | .divider, [] => .ok (s, [])
    | .divider, _ :: _ => .error .usage
    | .stop why, _ => .error why
    | .setting setting (some value), rest =>
      match store setting value s with
      | .ok s => read level s rest
      | .error why => .error why
    | .setting _ none, [] => .error .usage
    | .setting setting none, value :: rest =>
      if isWord value then
        match store setting value s with
        | .ok s => read level s rest
        | .error why => .error why
      else .error .usage

/-- Read options where no word may follow. -/
def readAll (level : Level σ) (s : σ) (args : List String) : Except Stop σ :=
  match level.read s args with
  | .ok (s, []) => .ok s
  | .ok (_, _ :: _) => .error .usage
  | .error why => .error why

end Level

/-- What the value of an option does that is given at most once. -/
def once {σ α : Type} (get : σ → Option α) (put : α → σ → σ) (value? : String → Option α)
    (text : String) (s : σ) : Option σ :=
  match get s with
  | some _ => none
  | none => (value? text).map fun value => put value s

/-- The path of a file. -/
def path? (text : String) : Option String := if text = "" then none else some text

/-- The number of a port. -/
def port? (text : String) : Option Nat :=
  (Decimal.integer? text.toList).bind fun n =>
    if 0 ≤ n ∧ n < Nat.pow 2 16 then some n.toNat else none

/-! ## The program's own options -/

/-- What is set for the remote side. -/
structure ServeOptions where
  bind : Option String := none
  targetPort : Option Nat := none
  deriving DecidableEq, Repr, Inhabited

/-- What is set for the local side. -/
structure ConnectOptions where
  url : Option String := none
  localPort : Option Nat := none
  deriving DecidableEq, Repr, Inhabited

/-- What is set for every command. -/
structure CommonOptions where
  /-- The configuration file. -/
  config : Option String := none
  /-- Profiles beside those that the file declares. -/
  profiles : List String := []
  deriving DecidableEq, Repr, Inhabited

/-- The options of the remote side. -/
def serveLevel : Level ServeOptions where
  settings := [
    { long := "bind", store := once (·.bind) (fun v s => { s with bind := some v }) some },
    { long := "target-port"
      store := once (·.targetPort) (fun v s => { s with targetPort := some v }) port? }]

/-- The options of the local side. -/
def connectLevel : Level ConnectOptions where
  settings := [
    { long := "url", store := once (·.url) (fun v s => { s with url := some v }) some },
    { long := "local-port"
      store := once (·.localPort) (fun v s => { s with localPort := some v }) port? }]

/-- The options of every command. -/
def commonLevel : Level CommonOptions where
  settings := [
    { long := "config", short := some 'c'
      store := once (·.config) (fun v s => { s with config := some v }) path? },
    { long := "profile", short := some 'p'
      store := fun v s => some { s with profiles := s.profiles ++ [v] } }]
  tellsVersion := true

/-- The two sides of a tunnel. -/
inductive Side where
  /-- Offer the target to a remote client. -/
  | serve (options : ServeOptions)
  /-- Listen for local sockets and tunnel them. -/
  | connect (options : ConnectOptions)
  deriving DecidableEq, Repr, Inhabited

/-- What the program is asked to do. -/
structure Arguments where
  common : CommonOptions := {}
  side : Side
  deriving DecidableEq, Repr, Inhabited

/-- The names of the commands. -/
def names : List String := ["serve", "connect", "help"]

/-- How the program is used. -/
def usage : String :=
  "Usage: devtunnel [--config FILE] [--profile NAME]... COMMAND\n\n" ++
  "Commands:\n" ++
  "  serve    Expose the target socket over HTTP\n" ++
  "             --bind ADDRESS        Override server.bind_address\n" ++
  "             --target-port PORT    Override server.target_port\n" ++
  "  connect  Listen locally and tunnel connections to a remote endpoint\n" ++
  "             --url URL             Override client.remote_url\n" ++
  "             --local-port PORT     Override client.local_port\n" ++
  "  help     Print this message\n\n" ++
  "Options:\n" ++
  "  -c, --config FILE     TOML configuration file\n" ++
  "  -p, --profile NAME    Additional profile to activate (repeatable)\n" ++
  "  -h, --help            Print help\n" ++
  "  -V, --version         Print version"

/-- Read the arguments of the program. -/
def Arguments.read (args : List String) : Except Stop Arguments := do
  let (common, rest) ← commonLevel.read {} args
  match rest with
  | "serve" :: rest => return { common, side := .serve (← serveLevel.readAll {} rest) }
  | "connect" :: rest => return { common, side := .connect (← connectLevel.readAll {} rest) }
  | ["help"] => throw .help
  | ["help", topic] => if topic ∈ names then throw .help else throw .usage
  | _ => throw .usage

end Command
end PollTunnel
