import PollTunnel.Bytes
import PollTunnel.Number.Shortest

/-!
# JSON values

`Json` is the value type of token headers and claims and of the tunnel's own answers.  An object
keeps its members as they were written; where a name is repeated, the last member counts
(`Json.get?`).

`Json.compact` writes a value on one line.
-/

set_option autoImplicit false

namespace PollTunnel

/-- A JSON number: an integer, or a binary floating-point number. -/
inductive Json.Number where
  | integer (value : Int)
  | real (value : Binary64)
  deriving DecidableEq, Inhabited

/-- A JSON value. -/
inductive Json where
  | null
  | boolean (value : Bool)
  | number (value : Json.Number)
  | string (value : String)
  | array (items : List Json)
  | object (members : List (String × Json))
  deriving Inhabited

namespace Json

/-- An integer as a value. -/
def ofInt (n : Int) : Json := .number (.integer n)

/-- A natural number as a value. -/
def ofNat (n : Nat) : Json := .number (.integer n)

/-- A text, or null for none. -/
def ofOptionalText : Option String → Json
  | some s => .string s
  | none => .null

/-- A list of texts. -/
def ofTexts (texts : List String) : Json := .array (texts.map .string)

/-- The member of that name that counts: the last one. -/
def get? (value : Json) (name : String) : Option Json :=
  match value with
  | .object members => (members.reverse.find? (·.1 == name)).map (·.2)
  | _ => none

/-- The text of a string value. -/
def text? : Json → Option String
  | .string s => some s
  | _ => none

/-- The items of an array value. -/
def items? : Json → Option (List Json)
  | .array items => some items
  | _ => none

/-- The value of a number that is an integer and not negative. -/
def nat? : Json → Option Nat
  | .number (.integer (.ofNat n)) => some n
  | _ => none

/-- The value of a number that is an integer. -/
def int? : Json → Option Int
  | .number (.integer n) => some n
  | _ => none

/-- The value of a boolean. -/
def bool? : Json → Option Bool
  | .boolean b => some b
  | _ => none

/-! ## Repeated names -/

/-- The members that count: of a repeated name only the last. -/
def lastMembers : List (String × Json) → List (String × Json)
  | [] => []
  | (name, value) :: rest =>
    if rest.any (·.1 == name) then lastMembers rest else (name, value) :: lastMembers rest

mutual

/-- A value in whose objects every name stands once. -/
def distinct : Json → Json
  | .array items => .array (distinctItems items)
  | .object members => .object (lastMembers (distinctMembers members))
  | value => value

/-- The items of an array, each with distinct names. -/
def distinctItems : List Json → List Json
  | [] => []
  | item :: rest => distinct item :: distinctItems rest

/-- The members of an object, each with distinct names in its value. -/
def distinctMembers : List (String × Json) → List (String × Json)
  | [] => []
  | (name, value) :: rest => (name, distinct value) :: distinctMembers rest

end

/-! ## Writing -/

/-- The style of JSON numbers: positional from 0.00001 and below 10^16. -/
def numberStyle : Shortest.Style := ⟨some 16, some (-5), true⟩

/-- A character inside quotes. -/
def escape (c : Char) : List Char :=
  if c = '"' then ['\\', '"']
  else if c = '\\' then ['\\', '\\']
  else if c.toNat < 0x20 then '\\' :: 'u' :: '0' :: '0' :: Bytes.hexPair c.toNat.toUInt8
  else [c]

/-- A text in quotes. -/
def quote (s : String) : String := String.ofList ('"' :: s.toList.flatMap escape ++ ['"'])

/-- A number.  What is no number or infinite has no JSON form and is written as null. -/
def Number.compact : Number → String
  | .integer n => toString n
  | .real x => if x.isFinite then Shortest.render numberStyle x else "null"

mutual

/-- A value on one line. -/
def compact : Json → String
  | .null => "null"
  | .boolean true => "true"
  | .boolean false => "false"
  | .number n => n.compact
  | .string s => quote s
  | .array items => "[" ++ ",".intercalate (compactItems items) ++ "]"
  | .object members => "\x7b" ++ ",".intercalate (compactMembers members) ++ "\x7d"

/-- The items of an array, each on one line. -/
def compactItems : List Json → List String
  | [] => []
  | item :: rest => compact item :: compactItems rest

/-- The members of an object, each on one line. -/
def compactMembers : List (String × Json) → List String
  | [] => []
  | (name, value) :: rest => (quote name ++ ":" ++ compact value) :: compactMembers rest

end

end Json
end PollTunnel
