import PollTunnel.Bytes
import PollTunnel.Number.Decimal

/-!
# Socket addresses

A `SocketAddress` is an IP address with a port, written `192.0.2.1:80` or `[2001:db8::1]:80`; the
second form may name a zone, as in `[fe80::1%2]:80`.

* Each part of a version 4 address has one to three digits and no leading zero.
* Each group of a version 6 address has one to four hexadecimal digits; `::` stands for at least
  one group of zeros, and the last two groups may be written as a version 4 address.
* A port has any number of digits.
-/

set_option autoImplicit false

namespace PollTunnel

/-- The address of a host. -/
inductive IpAddress where
  | v4 (a b c d : Nat)
  /-- Eight groups of sixteen bits. -/
  | v6 (groups : List Nat)
  deriving DecidableEq, Repr, Inhabited

/-- A host's address and a port on it. -/
structure SocketAddress where
  ip : IpAddress
  port : Nat
  deriving DecidableEq, Repr, Inhabited

namespace IpAddress

/-! ## Reading -/

/-- The text after one given character. -/
def expect? (c : Char) : List Char → Option (List Char)
  | d :: rest => if d = c then some rest else none
  | [] => none

/-- One part of a version 4 address. -/
def part? (cs : List Char) : Option (Nat × List Char) :=
  let digits := cs.takeWhile Decimal.isDigit
  let n := Decimal.value digits
  if digits = [] ∨ 3 < digits.length ∨ (digits.head? = some '0' ∧ 1 < digits.length) ∨ 255 < n then
    none
  else some (n, cs.dropWhile Decimal.isDigit)

/-- The version 4 address at the front. -/
def v4? (cs : List Char) : Option ((Nat × Nat × Nat × Nat) × List Char) := do
  let (a, cs) ← part? cs
  let (b, cs) ← part? (← expect? '.' cs)
  let (c, cs) ← part? (← expect? '.' cs)
  let (d, cs) ← part? (← expect? '.' cs)
  return ((a, b, c, d), cs)

/-- One group of a version 6 address. -/
def group? (cs : List Char) : Option (Nat × List Char) :=
  let isHex := fun c => (Bytes.hexValue? c).isSome
  let digits := cs.takeWhile isHex
  if digits = [] ∨ 4 < digits.length then none
  else
    some (digits.foldl (fun n c => 16 * n + (Bytes.hexValue? c).getD 0) 0, cs.dropWhile isHex)

/-- Groups with colons between them, as many as there are and at most `limit`; whether the last
two were written as a version 4 address; and the rest. -/
def groups : Nat → Bool → List Char → List Nat × Bool × List Char
  | 0, _, cs => ([], false, cs)
  | limit + 1, first, cs =>
    let start := if first then some cs else expect? ':' cs
    let quad := if limit = 0 then none else start.bind v4?
    match quad with
    | some ((a, b, c, d), rest) => ([a * 256 + b, c * 256 + d], true, rest)
    | none =>
      match start.bind group? with
      | none => ([], false, cs)
      | some (g, rest) =>
        let (more, quad, rest) := groups limit false rest
        (g :: more, quad, rest)

/-- The version 6 address at the front, as its eight groups. -/
def v6? (cs : List Char) : Option (List Nat × List Char) :=
  match groups 8 true cs with
  | (head, quad, rest) =>
    if head.length = 8 then some (head, rest)
    else if quad = true then none
    else
      match rest with
      | ':' :: ':' :: rest =>
        match groups (7 - head.length) true rest with
        | (tail, _, rest) =>
          some (head ++ List.replicate (8 - head.length - tail.length) 0 ++ tail, rest)
      | _ => none

/-! ## Writing -/

/-- A number in lowercase hexadecimal. -/
def hexText (n : Nat) : String := String.ofList (Nat.toDigits 16 n)

/-- Where the longest run of zeros starts and how long it is; of equal runs the first. -/
def longestZeros (groups : List Nat) : Nat × Nat :=
  let step (state : Nat × Nat × Nat × Nat) (g : Nat) : Nat × Nat × Nat × Nat :=
    let (i, run, start, best) := state
    let run := if g = 0 then run + 1 else 0
    if best < run then (i + 1, run, i + 1 - run, run) else (i + 1, run, start, best)
  let (_, _, start, best) := groups.foldl step (0, 0, 0, 0)
  (start, best)

/-- Groups in hexadecimal, the longest run of at least two zeros as `::`. -/
def v6Text (groups : List Nat) : String :=
  let (start, length) := longestZeros groups
  let written := fun (gs : List Nat) => ":".intercalate (gs.map hexText)
  if length < 2 then written groups
  else written (groups.take start) ++ "::" ++ written (groups.drop (start + length))

/-- An address in its usual form.  A version 4 address inside of version 6 keeps its dots. -/
def text : IpAddress → String
  | .v4 a b c d => ".".intercalate ([a, b, c, d].map toString)
  | .v6 [0, 0, 0, 0, 0, 0xffff, g, h] =>
    "::ffff:" ++ ".".intercalate ([g / 256, g % 256, h / 256, h % 256].map toString)
  | .v6 groups => v6Text groups

end IpAddress

namespace SocketAddress

/-- The port behind a colon, at the end of the text. -/
def port? (cs : List Char) : Option Nat := do
  let n ← Decimal.natural? (← IpAddress.expect? ':' cs)
  if n < 65536 then some n else none

/-- A zone behind a percent sign, if there is one; the rest. -/
def afterZone? : List Char → Option (List Char)
  | '%' :: cs =>
    let digits := cs.takeWhile Decimal.isDigit
    if digits = [] ∨ Nat.pow 2 32 ≤ Decimal.value digits then none
    else some (cs.dropWhile Decimal.isDigit)
  | cs => some cs

/-- The socket address that a whole text spells. -/
def ofString? (s : String) : Option SocketAddress :=
  let cs := s.toList
  let quad := (IpAddress.v4? cs).bind fun ((a, b, c, d), rest) =>
    (port? rest).map fun p => ⟨.v4 a b c d, p⟩
  match quad with
  | some address => some address
  | none => do
    let (gs, rest) ← IpAddress.v6? (← IpAddress.expect? '[' cs)
    let rest ← afterZone? rest
    let p ← port? (← IpAddress.expect? ']' rest)
    return ⟨.v6 gs, p⟩

/-- An address as it is written. -/
def text (a : SocketAddress) : String :=
  match a.ip with
  | .v4 _ _ _ _ => a.ip.text ++ ":" ++ toString a.port
  | .v6 _ => "[" ++ a.ip.text ++ "]:" ++ toString a.port

/-- Ports below this one are reserved for the system. -/
def firstOpenPort : Nat := 1024

/-- Whether a program without privileges is refused this port.  Port zero asks for any. -/
def isReserved (a : SocketAddress) : Bool := 0 < a.port && a.port < firstOpenPort

end SocketAddress
end PollTunnel
