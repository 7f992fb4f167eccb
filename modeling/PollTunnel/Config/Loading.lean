import PollTunnel.Config.Environment
import PollTunnel.Config.Location
import PollTunnel.Config.Validation
import PollTunnel.Files
import PollTunnel.Log
import PollTunnel.Text.Utf8
import PollTunnel.Toml.Reader

/-!
# Loading documents and their overlays

`Config.apply` reads a base document and then one overlay for each profile that the document or the
caller asks for, and puts them into an environment.  `Applied` tells what came of it: the
environment, the locations that were asked for, and what a listener is told, in order.

`Config.load` does that with files, binds the result and checks it.
-/

set_option autoImplicit false

namespace PollTunnel
namespace Config

/-- Why no configuration came about. -/
inductive Error where
  | io (cause : IoError)
  | notFound (location : Location)
  | parse (location : Location)
  | invalidProfile (profile : String)
  | bind (misfit : Misfit)
  | validation (problems : List Problem)
  deriving DecidableEq, Repr, Inhabited

/-- The message for an error. -/
def Error.message : Error → String
  | .io cause => "IO error: " ++ cause.text
  | .notFound location => "Config file '" ++ location.text ++ "' not found"
  | .parse location => "Parse error in '" ++ location.text ++ "'"
  | .invalidProfile profile => "Invalid profile name '" ++ profile ++ "'"
  | .bind misfit => "Bind error: " ++ misfit.message
  | .validation problems =>
    "Validation failed: " ++ ", ".intercalate (problems.map Problem.message)

/-- The name of an error's kind. -/
def Error.name : Error → String
  | .io _ => "Io"
  | .notFound _ => "NotFound"
  | .parse _ => "Parse"
  | .invalidProfile _ => "InvalidProfile"
  | .bind _ => "Bind"
  | .validation _ => "Validation"

/-- The full form of an error, for a program that ends with it. -/
def Error.detail (e : Error) : String :=
  match e with
  | .io cause => e.name ++ "(" ++ cause.detail ++ ")"
  | .notFound location => e.name ++ "(" ++ location.quoted ++ ")"
  | .parse location => e.name ++ " \x7b location: " ++ location.quoted ++ ", source: .. \x7d"
  | .invalidProfile profile => e.name ++ "(" ++ Text.quoted profile ++ ")"
  | .bind misfit => e.name ++ "(" ++ Text.quoted misfit.words ++ ")"
  | .validation problems =>
    e.name ++ "([" ++ ", ".intercalate (problems.map Problem.detail) ++ "])"

/-- Where documents come from: the text at a location, if anything is there. -/
abbrev Loader := Location → Except IoError (Option String)

/-- What a listener is told. -/
inductive Notice where
  | sourceAdded (source : Source)
  /-- All profiles that are active now. -/
  | profilesActivated (profiles : List String)
  | overlayMissing (profile : String) (location : Location)
  deriving Inhabited

/-- What came of applying documents to an environment. -/
structure Applied where
  environment : Environment
  /-- The locations asked for, in order. -/
  asked : List Location := []
  notices : List Notice := []
  result : Except Error Unit := .ok ()

namespace Applied

/-- A document was found: it goes on top, and the listener is told. -/
def addSource (a : Applied) (source : Source) : Applied :=
  { a with
    environment := a.environment.add source
    notices := a.notices ++ [.sourceAdded source] }

/-- Profiles become active, and the listener is told which are. -/
def activate (a : Applied) (profiles : List String) : Applied :=
  let environment := a.environment.activate profiles
  { a with environment, notices := a.notices ++ [.profilesActivated environment.activeProfiles] }

/-- It ends here with an error. -/
def fail (a : Applied) (e : Error) : Applied := { a with result := .error e }

/-- A location was asked for. -/
def ask (a : Applied) (location : Location) : Applied := { a with asked := a.asked ++ [location] }

end Applied

/-- The document at a location. -/
def loadTable (loader : Loader) (location : Location) : Except Error (Option Toml.Table) :=
  match loader location with
  | .error e => .error (.io e)
  | .ok none => .ok none
  | .ok (some content) =>
    match Toml.read? content with
    | some table => .ok (some table)
    | none => .error (.parse location)

/-- The profiles that a document declares: the texts in the array at `profiles.active`. -/
def declaredProfiles (table : Toml.Table) : List String :=
  match Toml.at? table ["profiles", "active"] with
  | some (.array items) => items.filterMap fun
    | .string s => some s
    | _ => none
  | _ => []

/-- A character of profile names. -/
def isProfileChar (c : Char) : Bool := c.isAlphanum || c == '-' || c == '_' || c == '.'

/-- Two dots in a row. -/
def hasDoubleDot : List Char → Bool
  | '.' :: '.' :: _ => true
  | _ :: rest => hasDoubleDot rest
  | [] => false

/-- A profile name that may become part of a file name. -/
def isProfileName (profile : String) : Bool :=
  profile ≠ "" && profile.toList.all isProfileChar && !hasDoubleDot profile.toList

/-- Members of a list, each where it came first. -/
def distinct (profiles : List String) : List String := profiles.foldl Environment.addOnce []

/-- Apply the overlays of profiles in order, until one cannot be read. -/
def applyOverlays (loader : Loader) (base : Location) (a : Applied) : List String → Applied
  | [] => a
  | profile :: rest =>
    let location := Location.overlay base profile
    let a := a.ask location
    match loadTable loader location with
    | .error e => a.fail e
    | .ok (some table) => applyOverlays loader base (a.addSource ⟨location.text, table⟩) rest
    | .ok none =>
      applyOverlays loader base
        { a with notices := a.notices ++ [.overlayMissing profile location] } rest

/-- The profiles of a base document and of the caller. -/
def requestedProfiles (table : Toml.Table) (additional : List String) : List String :=
  distinct (declaredProfiles table ++ additional)

/-- Apply a base document and its overlays to an environment. -/
def apply (loader : Loader) (additional : List String) (environment : Environment)
    (location : Location) : Applied :=
  let a : Applied := { environment, asked := [location] }
  match loadTable loader location with
  | .error e => a.fail e
  | .ok none => a.fail (.notFound location)
  | .ok (some table) =>
    let profiles := requestedProfiles table additional
    match profiles.find? (!isProfileName ·) with
    | some profile => a.fail (.invalidProfile profile)
    | none =>
      applyOverlays loader location ((a.addSource ⟨location.text, table⟩).activate profiles)
        profiles

/-! ## What a log is told -/

/-- The log event for what a listener is told, if it is worth one. -/
def Notice.logEvent? : Notice → Option Log.Event
  | .sourceAdded source =>
    some { level := .debug, message := "Config source added"
           fields := [("source", .text source.name), ("keys", .number source.table.length)] }
  | .profilesActivated [] => none
  | .profilesActivated profiles =>
    some { level := .info, message := "Active profiles"
           fields := [("profiles", .text (Text.quotedList profiles))] }
  | .overlayMissing profile location =>
    some { level := .debug, message := "No profile-specific config document"
           fields := [("profile", .text profile), ("location", .text location.text)] }

/-! ## Files -/

/-- Documents in files.  A file that is missing is no document; its text has to be UTF-8. -/
def fileLoader (files : Files) : Loader := fun location =>
  match files.readAt location with
  | .error e => if e.kind = .notFound then .ok none else .error e
  | .ok contents =>
    match Utf8.decode? contents with
    | some s => .ok (some s)
    | none => .error (.worded .invalidData "stream did not contain valid UTF-8")

/-- The configuration in a file and its overlays, if it breaks no rule. -/
def load (files : Files) (path : String) (profiles : List String) : Except Error Config :=
  let applied := apply (fileLoader files) profiles {} (Bytes.ofString path)
  match applied.result with
  | .error e => .error e
  | .ok () =>
    match applied.environment.bind with
    | .error m => .error (.bind m)
    | .ok config =>
      match config.problems files.contains with
      | [] => .ok config
      | problems => .error (.validation problems)

end Config
end PollTunnel
