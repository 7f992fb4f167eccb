/-!
# Route patterns

A `Route` is a path whose segments may be left open: `/a/{name}` takes any one segment behind
`/a/`, and `/a/{*rest}` takes anything behind it.  An open segment may begin with fixed text.
A brace that is meant literally is doubled.

* `Route.read?` — the route of a pattern, if it is one.
* `Route.takes` — whether a path belongs to the route.
-/

set_option autoImplicit false

namespace PollTunnel

/-- A segment of a pattern. -/
inductive Route.Segment where
  /-- This segment and no other. -/
  | fixed (text : String)
  /-- Any segment that begins like this and goes on. -/
  | named (lead name : String)
  /-- Everything that follows, if that is anything. -/
  | rest (name : String)
  deriving DecidableEq, Repr

/-- The segments of a path, each behind a slash. -/
structure Route where
  segments : List Route.Segment
  deriving DecidableEq, Repr

namespace Route

/-- The text up to a single opening brace, with doubled braces halved, and what follows that brace;
none if a closing brace stands alone. -/
def splitBrace? : List Char → Option (List Char × Option (List Char))
  | [] => some ([], none)
  | '{' :: '{' :: rest => (splitBrace? rest).map fun (lead, name) => ('{' :: lead, name)
  | '}' :: '}' :: rest => (splitBrace? rest).map fun (lead, name) => ('}' :: lead, name)
  | c :: rest =>
    if c = '{' then some ([], some rest)
    else if c = '}' then none
    else (splitBrace? rest).map fun (lead, name) => (c :: lead, name)

/-- The name of an open segment. -/
def isName (cs : List Char) : Bool :=
  !cs.isEmpty && cs.all fun c => c != '{' && c != '}' && c != '*'

/-- An open segment behind a lead; only the last segment may take everything. -/
def Segment.open? (last : Bool) (lead : List Char) (braced : List Char) : Option Segment :=
  if braced.getLast? = some '}' then
    match braced.dropLast with
    | '*' :: name =>
      if last && lead.isEmpty && isName name then some (.rest (String.ofList name)) else none
    | name =>
      if isName name then some (.named (String.ofList lead) (String.ofList name)) else none
  else none

/-- A segment of a pattern. -/
def Segment.read? (last : Bool) (text : String) : Option Segment :=
  match text.toList with
  | ':' :: _ | '*' :: _ => none
  | cs =>
    match splitBrace? cs with
    | none => none
    | some (text, none) => some (.fixed (String.ofList text))
    | some (lead, some braced) => Segment.open? last lead braced

/-- The segments of a pattern. -/
def segments? : List String → Option (List Segment)
  | [] => some []
  | text :: rest => do
    let s ← Segment.read? rest.isEmpty text
    return s :: (← segments? rest)

/-- The segments of a path, which begins with a slash. -/
def split? (path : String) : Option (List String) :=
  match path.splitOn "/" with
  | "" :: first :: rest => some (first :: rest)
  | _ => none

/-- The name of an open segment. -/
def Segment.name? : Segment → Option String
  | .fixed _ => none
  | .named _ name | .rest name => some name

/-- The route of a pattern. -/
def read? (pattern : String) : Option Route := do
  let segments ← segments? (← split? pattern)
  if (segments.filterMap Segment.name?).Nodup then some ⟨segments⟩ else none

/-- A segment begins like this and goes on. -/
def goesOn (lead part : List Char) : Bool := lead.isPrefixOf part && lead.length < part.length

/-- The segments of a path belong to the segments of a pattern. -/
def fits : List Segment → List String → Bool
  | [], [] => true
  | [.rest _], parts => parts != [""] && !parts.isEmpty
  | .fixed text :: more, part :: parts => text == part && fits more parts
  | .named lead _ :: more, part :: parts => goesOn lead.toList part.toList && fits more parts
  | _, _ => false

/-- A path belongs to the route. -/
def takes (r : Route) (path : String) : Bool := (split? path).any (fits r.segments)

end Route
end PollTunnel
