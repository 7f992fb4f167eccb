import PollTunnel.Bytes
import PollTunnel.Text.Utf8

/-!
# Tagged data

The binary form of keys and certificates: every element has a tag, a length and contents, and the
contents of a sequence are elements again.

* `Der.read?` — the elements of a byte string, read tolerantly: an element of an unknown tag is
  kept as one that says nothing.
* `Der.pair?` — the two natural numbers of a sequence that holds nothing else, read strictly: every
  length and every number in its shortest form.
-/

set_option autoImplicit false

namespace PollTunnel
namespace Der

/-- An element, as far as keys are concerned. -/
inductive Element where
  /-- A sequence of elements. -/
  | sequence (items : List Element)
  /-- The numbered path of a name that is registered somewhere. -/
  | identifier (arcs : List Nat)
  /-- A string of octets, or of bits without the count of those unused. -/
  | octets (contents : Bytes)
  /-- Anything else. -/
  | other
  deriving Inhabited

/-! ## Tags and lengths -/

/-- A number in groups of seven bits, each but the last marked by its high bit, and the rest. -/
def groupsOfSeven? (acc : Nat) : Bytes → Option (Nat × Bytes)
  | [] => none
  | b :: rest =>
    let n := acc * 128 + b.toNat % 128
    if b < 128 then some (n, rest) else groupsOfSeven? n rest

/-- The front of an element. -/
structure Tag where
  /-- The two bits that say who defines the tag; zero for those everyone knows. -/
  area : Nat
  /-- The contents are elements. -/
  constructed : Bool
  number : Nat

/-- The tag at the front, and the rest. -/
def tag? : Bytes → Option (Tag × Bytes)
  | [] => none
  | b :: rest =>
    let area := b.toNat / 64
    let constructed := b.toNat / 32 % 2 == 1
    if b.toNat % 32 = 31 then
      (groupsOfSeven? 0 rest).map fun (n, rest) => (⟨area, constructed, n⟩, rest)
    else some (⟨area, constructed, b.toNat % 32⟩, rest)

/-- The most octets that a length is spread over. -/
def maxLengthOctets : Nat := 8

/-- The length at the front, and the rest. -/
def length? : Bytes → Option (Nat × Bytes)
  | [] => none
  | b :: rest =>
    if b < 128 then some (b.toNat, rest)
    else
      let size := b.toNat - 128
      if maxLengthOctets < size ∨ rest.length < size then none
      else some (Bytes.toNat (rest.take size), rest.drop size)

/-! ## Contents of the known tags -/

/-- The path that contents stand for: the first octet holds the first two numbers. -/
def arcs? : Bytes → Option (List Nat)
  | [] => none
  | b :: rest =>
    let first := min (b.toNat / 40) 2
    (more rest.length rest).map fun arcs => first :: (b.toNat - 40 * first) :: arcs
where
  more : Nat → Bytes → Option (List Nat)
    | _, [] => some []
    | 0, _ => none
    | fuel + 1, bytes =>
      match groupsOfSeven? 0 bytes with
      | none => none
      | some (n, rest) => (more fuel rest).map (n :: ·)

/-- A string of bits: the first octet counts the bits unused at the end. -/
def bits? : Bytes → Option Bytes
  | [] => some []
  | unused :: contents => if unused.toNat ≤ 8 * contents.length then some contents else none

/-- A character of the restricted alphabet of names. -/
def isPrintable (b : UInt8) : Bool :=
  let c := Char.ofNat b.toNat
  (b < 128 && c.isAlphanum) || " '()+,-./:=?".toList.contains c

/-- The value of two digits. -/
def twoDigits? : Bytes → Option (Nat × Bytes)
  | a :: b :: rest =>
    if 48 ≤ a ∧ a ≤ 57 ∧ 48 ≤ b ∧ b ≤ 57 then
      some ((a.toNat - 48) * 10 + (b.toNat - 48), rest)
    else none
  | _ => none

/-- The days of a month. -/
def daysIn (year month : Nat) : Nat :=
  if month = 2 then if (year % 4 = 0 ∧ year % 100 ≠ 0) ∨ year % 400 = 0 then 29 else 28
  else if month = 4 ∨ month = 6 ∨ month = 9 ∨ month = 11 then 30
  else 31

/-- A point in time with a year of two digits, of this century below fifty. -/
def isTime (contents : Bytes) : Bool :=
  (do
    let (y, rest) ← twoDigits? contents
    let (month, rest) ← twoDigits? rest
    let (day, rest) ← twoDigits? rest
    let (hour, rest) ← twoDigits? rest
    let (minute, rest) ← twoDigits? rest
    let (second, rest) ← twoDigits? rest
    let year := if y < 50 then 2000 + y else 1900 + y
    guard (1 ≤ month ∧ month ≤ 12 ∧ 1 ≤ day ∧ day ≤ daysIn year month ∧ hour < 24 ∧ minute < 60 ∧
      second < 60 ∧ rest = [90])).isSome

/-- The contents fit a known tag that is neither sequence nor set. -/
def fits (number : Nat) (contents : Bytes) : Bool :=
  match number with
  | 1 => contents.length == 1
  | 12 | 20 | 28 | 30 => (Utf8.decode? contents).isSome
  | 19 => contents.all isPrintable
  | 22 => contents.all (· < 128)
  | 23 => isTime contents
  | _ => true

/-! ## Reading -/

/-- The elements of a byte string.  Nothing at all is not a byte string of elements, and neither is
one whose last element breaks off. -/
def elements? : Nat → Bytes → Option (List Element)
  | 0, _ => none
  | fuel + 1, bytes =>
    match (do
      let (tag, rest) ← tag? bytes
      let (size, rest) ← length? rest
      if rest.length < size then none
      else some (tag, rest.take size, rest.drop size)) with
    | none => none
    | some (tag, contents, rest) =>
      let element :=
        if tag.area ≠ 0 then some .other
        else
          match tag.number with
          | 3 => (bits? contents).map .octets
          | 4 => some (.octets contents)
          | 6 => (arcs? contents).map .identifier
          | 16 => (elements? fuel contents).map .sequence
          | 17 => (elements? fuel contents).map fun _ => .other
          | n => if fits n contents then some .other else none
      match element, rest with
      | none, _ => none
      | some e, [] => some [e]
      | some e, more => (elements? fuel more).map (e :: ·)

/-- The elements of a byte string. -/
def read? (bytes : Bytes) : Option (List Element) := elements? (bytes.length + 1) bytes

/-! ## Looking for something -/

mutual

/-- The first element that `pick` takes, sequences being searched in place. -/
def Element.findSome? {α : Type} (pick : Element → Option α) : Element → Option α
  | .sequence items => findSomeIn? pick items
  | e => pick e

/-- The first element of a list that `pick` takes, sequences being searched in place. -/
def findSomeIn? {α : Type} (pick : Element → Option α) : List Element → Option α
  | [] => none
  | e :: rest =>
    match e.findSome? pick with
    | some x => some x
    | none => findSomeIn? pick rest

end

/-! ## Two numbers, strictly -/

/-- A length in its shortest form, and the rest. -/
def shortestLength? (bytes : Bytes) : Option (Nat × Bytes) := do
  let (size, rest) ← length? bytes
  let spent := bytes.length - rest.length
  let needed := if size < 128 then 1 else size.log2 / 8 + 2
  if spent = needed then some (size, rest) else none

/-- The contents of an element with this tag octet, and the rest. -/
def strict? (tag : UInt8) : Bytes → Option (Bytes × Bytes)
  | [] => none
  | b :: rest => do
    let (size, rest) ← shortestLength? rest
    if b = tag ∧ size ≤ rest.length then some (rest.take size, rest.drop size) else none

/-- The number of an element, which is not negative and has no idle octet in front. -/
def natural? : Bytes → Option Nat
  | [] => none
  | [b] => if b < 128 then some b.toNat else none
  | b :: c :: rest =>
    if b < 128 ∧ ¬(b = 0 ∧ c < 128) then some (Bytes.toNat (b :: c :: rest)) else none

/-- The two natural numbers of a sequence that holds nothing else. -/
def pair? (bytes : Bytes) : Option (Nat × Nat) := do
  let (contents, after) ← strict? 0x30 bytes
  let (first, rest) ← strict? 0x02 contents
  let (second, rest) ← strict? 0x02 rest
  let m ← natural? first
  let n ← natural? second
  if after = [] ∧ rest = [] then some (m, n) else none

end Der
end PollTunnel
