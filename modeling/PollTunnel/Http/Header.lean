import PollTunnel.Bytes

/-!
# Header fields

A field name is kept in lower case (`HeaderName.ofString?`), so that two spellings of one name are
equal.  `Headers` lists the fields of a message in order; a name may be repeated.

* `Headers.first?` — the value that counts where one is asked for.
* `Headers.values` — every value of a name, in order.
* `Headers.insert` — set a name to one value; `Headers.append` adds a value to those there are.
-/

set_option autoImplicit false

namespace PollTunnel

/-- The name of a header field, in lower case. -/
structure HeaderName where
  /-- The name as it is compared and shown. -/
  text : String
  deriving DecidableEq, Repr, Inhabited

namespace HeaderName

/-- The characters of a field name. -/
def isToken (c : Char) : Bool :=
  c.isAlphanum || "!#$%&'*+-.^_`|~".toList.contains c

/-- The name spelled by a text; a name has at least one character and only tokens. -/
def ofString? (s : String) : Option HeaderName :=
  if s ≠ "" ∧ s.toList.all isToken = true ∧ s.toList.length < 65536 then
    some ⟨String.ofList (s.toList.map Char.toLower)⟩
  else none

def contentLength : HeaderName := ⟨"content-length"⟩

def contentType : HeaderName := ⟨"content-type"⟩

def authorization : HeaderName := ⟨"authorization"⟩

def challenge : HeaderName := ⟨"www-authenticate"⟩

def allow : HeaderName := ⟨"allow"⟩

def requestId : HeaderName := ⟨"x-request-id"⟩

def transferEncoding : HeaderName := ⟨"transfer-encoding"⟩

def connection : HeaderName := ⟨"connection"⟩

def host : HeaderName := ⟨"host"⟩

def date : HeaderName := ⟨"date"⟩

end HeaderName

/-- The fields of a message, in order. -/
abbrev Headers := List (HeaderName × Bytes)

namespace Headers

/-- A value holds tabs and octets from 20 on, except 7F. -/
def isValue (value : Bytes) : Bool := value.all fun b => (b ≥ 32 && b != 127) || b == 9

/-- The first value of a name. -/
def first? (headers : Headers) (name : HeaderName) : Option Bytes :=
  (headers.find? (·.1 = name)).map (·.2)

/-- All values of a name, in order. -/
def values (headers : Headers) (name : HeaderName) : List Bytes :=
  (headers.filter (·.1 = name)).map (·.2)

/-- Every field of another name stays; the name gets this one value. -/
def insert (headers : Headers) (name : HeaderName) (value : Bytes) : Headers :=
  headers.filter (·.1 ≠ name) ++ [(name, value)]

/-- Add a value to those the name has. -/
def append (headers : Headers) (name : HeaderName) (value : Bytes) : Headers :=
  headers ++ [(name, value)]

theorem first?_eq_head?_values (headers : Headers) (name : HeaderName) :
    headers.first? name = (headers.values name).head? := by
  simp only [first?, values, List.head?_map, List.head?_filter]

@[simp] theorem values_insert_self (headers : Headers) (name : HeaderName) (value : Bytes) :
    (headers.insert name value).values name = [value] := by
  simp [values, insert, List.filter_append, List.filter_filter]

theorem values_insert_of_ne (headers : Headers) {name other : HeaderName} (h : other ≠ name)
    (value : Bytes) : (headers.insert name value).values other = headers.values other := by
  have hf : headers.filter (fun f => decide (f.1 = other) && decide (f.1 ≠ name)) =
      headers.filter (fun f => decide (f.1 = other)) := by
    apply List.filter_congr
    intro f _
    by_cases e : f.1 = other
    · simp [e, h]
    · simp [e]
  simp only [values, insert, List.filter_append, List.filter_filter, hf]
  simp [Ne.symm h]

end Headers

/-- Octets that may be read as text: tab and the visible characters of ASCII with the space. -/
def isPlainOctet (b : UInt8) : Bool := (0x20 ≤ b && b ≤ 0x7E) || b == 9

/-- The text of a field value, if it has only plain octets. -/
def plainText? (value : Bytes) : Option (List Char) :=
  if value.all isPlainOctet = true then some (value.map fun b => Char.ofNat b.toNat) else none

end PollTunnel
