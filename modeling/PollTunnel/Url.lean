import PollTunnel.Text.Blank
import PollTunnel.Url.Host

/-!
# URLs

`Url.parse?` reads an absolute URL the way browsers do: white space and controls around it and tabs
and line breaks in it are dropped, `\` counts as `/` where a host is named, dots are resolved in the
path, and characters that may not stand in a part are percent-encoded.

An `http` URL is kept in full.  Of any other only the scheme is kept: the program needs to know no
more than that it is well formed.
-/

set_option autoImplicit false

namespace PollTunnel

/-- An `http` URL, each part in its normal form. -/
structure HttpUrl where
  /-- User name and password with the signs between and behind them, if there are any. -/
  credentials : String
  host : Host
  /-- The port, unless it is the scheme's own. -/
  port : Option Nat
  /-- The path with its leading slash. -/
  path : String
  query : Option String
  fragment : Option String
  deriving DecidableEq, Repr

/-- A URL. -/
inductive Url where
  | http (location : HttpUrl)
  | other (scheme : String)
  deriving DecidableEq, Repr

namespace Url

/-- The scheme of a URL. -/
def scheme : Url → String
  | .http _ => "http"
  | .other s => s

/-! ## Splitting -/

/-- Characters dropped at both ends. -/
def isEdge (c : Char) : Bool := c.toNat ≤ 0x20

/-- Characters dropped everywhere. -/
def isBreak (c : Char) : Bool := c == '\t' || c == '\n' || c == '\r'

/-- The characters of a URL that count. -/
def clean (s : String) : List Char := (Text.trimBy isEdge s.toList).filter (!isBreak ·)

/-- Characters of a scheme after its first letter. -/
def isSchemeChar (c : Char) : Bool := c.isAlphanum || c == '+' || c == '-' || c == '.'

/-- The scheme in lower case, and what follows its colon. -/
def scheme? (cs : List Char) : Option (List Char × List Char) :=
  match cs, cs.dropWhile isSchemeChar with
  | c :: _, ':' :: rest =>
    if c.isAlpha then some ((cs.takeWhile isSchemeChar).map Char.toLower, rest) else none
  | _, _ => none

/-- A separator of paths; `\` is one where a host is named. -/
def isSlash (special : Bool) (c : Char) : Bool := c == '/' || (special && c == '\\')

/-- The end of what may hold a host. -/
def endsAuthority (special : Bool) (c : Char) : Bool := isSlash special c || c == '?' || c == '#'

/-- The credentials before the last `@`, in their normal form, and what follows.  Credentials that
are empty vanish; there has to be something behind them. -/
def credentials? (special : Bool) (authority : List Char) : Option (List Char × List Char) :=
  if authority.contains '@' then
    let back := authority.reverse
    let host := (back.takeWhile (· != '@')).reverse
    let info := ((back.dropWhile (· != '@')).drop 1).reverse
    if info = [] then
      if host = [] ∧ special = true then none else some ([], host)
    else
      let name := Percent.encode Percent.inCredentials (info.takeWhile (· != ':'))
      let password := Percent.encode Percent.inCredentials ((info.dropWhile (· != ':')).drop 1)
      let written := name ++ (if password = [] then [] else ':' :: password)
      some (if written = [] then [] else written ++ ['@'], host)
  else some ([], authority)

/-- Host and port text of an authority: the colon before a port is the first outside brackets. -/
def splitPort : Bool → List Char → List Char × Option (List Char)
  | _, [] => ([], none)
  | bracketed, c :: rest =>
    if c = ':' ∧ bracketed = false then ([], some rest)
    else
      let (host, port) := splitPort (if c = '[' then true else if c = ']' then false else bracketed)
        rest
      (c :: host, port)

/-- The port that digits spell; none at all is no port. -/
def port? (own : Option Nat) : Option (List Char) → Option (Option Nat)
  | none => some none
  | some [] => some none
  | some ds =>
    match Decimal.natural? ds with
    | some n =>
      if 65535 < n then none else some (if own = some n then none else some n)
    | none => none

/-! ## Paths -/

/-- A segment that stands for the directory itself. -/
def isDot (segment : List Char) : Bool :=
  segment == ['.'] || segment.map Char.toLower == ['%', '2', 'e']

/-- A segment that stands for the directory above. -/
def isDoubleDot (segment : List Char) : Bool :=
  let s := segment.map Char.toLower
  s == "..".toList || s == ".%2e".toList || s == "%2e.".toList || s == "%2e%2e".toList

/-- The pieces of a text between slashes. -/
def segments (special : Bool) (cs : List Char) : List (List Char) :=
  cs.foldr (fun c acc =>
    if isSlash special c then [] :: acc
    else
      match acc with
      | piece :: rest => (c :: piece) :: rest
      | [] => [[c]]) [[]]

/-- Resolve dots: `done` are the segments so far in reverse. -/
def resolve (done : List (List Char)) : List (List Char) → List (List Char)
  | [] => done.reverse
  | segment :: rest =>
    if isDoubleDot segment then
      resolve (if rest = [] then [] :: done.drop 1 else done.drop 1) rest
    else if isDot segment then resolve (if rest = [] then [] :: done else done) rest
    else resolve (segment :: done) rest

/-- The normal form of the path of a URL that names a host. -/
def normalPath (cs : List Char) : List Char :=
  let body := match cs with
    | c :: rest => if isSlash true c then rest else c :: rest
    | [] => []
  let encoded := (segments true body).map (Percent.encode Percent.inPath)
  '/' :: ['/'].intercalate (resolve [] encoded)

/-! ## Schemes -/

/-- The port that a scheme has when none is named. -/
def ownPort (scheme : List Char) : Option Nat :=
  if scheme = "http".toList ∨ scheme = "ws".toList then some 80
  else if scheme = "https".toList ∨ scheme = "wss".toList then some 443
  else if scheme = "ftp".toList then some 21
  else none

/-- The parts of a URL that names a host, after its scheme. -/
def located? (scheme rest : List Char) : Option HttpUrl := do
  let body := rest.dropWhile (isSlash true)
  let authority := body.takeWhile (!endsAuthority true ·)
  let after := body.dropWhile (!endsAuthority true ·)
  let (credentials, place) ← credentials? true authority
  let (hostText, portText) := splitPort false place
  if hostText = [] then none
  let host ← Host.parse? hostText
  let port ← port? (ownPort scheme) portText
  let pathText := after.takeWhile fun c => c != '?' && c != '#'
  let tail := after.dropWhile fun c => c != '?' && c != '#'
  let query := match tail with
    | '?' :: q =>
      some (String.ofList (Percent.encode Percent.inQuery (q.takeWhile (· != '#'))))
    | _ => none
  let fragment := match tail.dropWhile (· != '#') with
    | '#' :: f => some (String.ofList f)
    | _ => none
  return {
    credentials := String.ofList credentials
    host, port
    path := String.ofList (normalPath pathText)
    query, fragment }

/-- A drive of a file system, which stands in a file URL where a host would. -/
def isDrive (cs : List Char) : Bool :=
  match cs with
  | [c, d] => c.isAlpha && (d == ':' || d == '|')
  | _ => false

/-- A file URL is well formed unless it names an impossible host. -/
def isFile (rest : List Char) : Bool :=
  match rest with
  | a :: b :: more =>
    if isSlash true a && isSlash true b then
      let host := more.takeWhile (!endsAuthority true ·)
      host == [] || isDrive host || (Host.parse? host).isSome
    else true
  | _ => true

/-- A URL of any other scheme is well formed unless it names an impossible host or port. -/
def isPlain (rest : List Char) : Bool :=
  match rest with
  | '/' :: '/' :: more =>
    match credentials? false (more.takeWhile (!endsAuthority false ·)) with
    | none => false
    | some (_, place) =>
      let (host, port) := splitPort false place
      Host.isOpaque host && (port? none port).isSome && (host ≠ [] || port.isNone)
  | _ => true

/-- The URL that a text spells. -/
def parse? (s : String) : Option Url := do
  let (scheme, rest) ← scheme? (clean s)
  if scheme = "http".toList then return .http (← located? scheme rest)
  if (ownPort scheme).isSome then
    let _ ← located? scheme rest
    return .other (String.ofList scheme)
  let sound := if scheme = "file".toList then isFile rest else isPlain rest
  if sound then return .other (String.ofList scheme) else none

end Url

namespace HttpUrl

/-- The port that belongs to the scheme. -/
def schemePort : Nat := 80

/-- Host and port, as they stand in a URL. -/
def authority (u : HttpUrl) : String :=
  u.host.text ++
    (match u.port with
      | some n => ":" ++ toString n
      | none => "")

/-- A URL without its fragment. -/
def text (u : HttpUrl) : String :=
  "http://" ++ u.credentials ++ u.authority ++ u.path ++
    (match u.query with
      | some q => "?" ++ q
      | none => "")

/-- The greatest length of a request's target. -/
def maxLength : Nat := 65534

/-- The length of a URL with its fragment, in the form in which it was normalised. -/
def fullLength (u : HttpUrl) : Nat :=
  u.text.utf8ByteSize +
    (match u.fragment with
      | some f => 1 + ((f.toList.map fun c =>
          if Percent.isControl c || " \"<>`".toList.contains c then
            3 * c.utf8Size else 1).foldl (· + ·) 0)
      | none => 0)

/-- Requests can be sent to a URL if its host has no character that a request's target cannot
show, and it is not too long. -/
def isUsable (u : HttpUrl) : Bool :=
  u.host.text.toList.all (fun c => !"\"`\x7b\x7d".toList.contains c) &&
    u.fullLength ≤ maxLength

end HttpUrl
end PollTunnel
