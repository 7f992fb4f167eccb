import PollTunnel.Json
import PollTunnel.Number.Decimal

/-!
# Reading JSON

`Json.read?` reads a whole text that holds one value and white space around it.

* Nesting deeper than 127 levels is refused.
* An integer that fits 64 bits, with or without a sign, is kept exactly; any other number becomes
  binary floating point: the first digits that fit 64 bits, multiplied or divided by a power of
  ten.  A number too large for that format is refused.
* A surrogate is read only as half of a pair.
-/

set_option autoImplicit false

namespace PollTunnel
namespace Json
namespace Reader

/-- White space between tokens. -/
def isSpace (c : Char) : Bool := c == ' ' || c == '\n' || c == '\t' || c == '\r'

/-- The text after leading white space. -/
def skip (cs : List Char) : List Char := cs.dropWhile isSpace

/-! ## Strings -/

/-- The value of four hexadecimal digits, and the rest. -/
def hex4? : List Char → Option (Nat × List Char)
  | a :: b :: c :: d :: rest => do
    let a ← Bytes.hexValue? a
    let b ← Bytes.hexValue? b
    let c ← Bytes.hexValue? c
    let d ← Bytes.hexValue? d
    return (((a * 16 + b) * 16 + c) * 16 + d, rest)
  | _ => none

/-- The character of an escape whose first half is `high`: a surrogate needs its partner. -/
def escaped? (high : Nat) (rest : List Char) : Option (Char × List Char) :=
  if 0xDC00 ≤ high ∧ high ≤ 0xDFFF then none
  else if 0xD800 ≤ high ∧ high ≤ 0xDBFF then
    match rest with
    | '\\' :: 'u' :: more =>
      match hex4? more with
      | some (low, tail) =>
        if 0xDC00 ≤ low ∧ low ≤ 0xDFFF then
          some (Char.ofNat (0x10000 + (high - 0xD800) * 1024 + (low - 0xDC00)), tail)
        else none
      | none => none
    | _ => none
  else some (Char.ofNat high, rest)

/-- The character after a backslash, and the rest. -/
def afterBackslash? : List Char → Option (Char × List Char)
  | '"' :: rest => some ('"', rest)
  | '\\' :: rest => some ('\\', rest)
  | '/' :: rest => some ('/', rest)
  | 'b' :: rest => some (Char.ofNat 8, rest)
  | 'f' :: rest => some (Char.ofNat 12, rest)
  | 'n' :: rest => some ('\n', rest)
  | 'r' :: rest => some ('\r', rest)
  | 't' :: rest => some ('\t', rest)
  | 'u' :: rest => (hex4? rest).bind fun (high, more) => escaped? high more
  | _ => none

/-- The text up to the closing quote, whose beginning is `done` in reverse, and the rest. -/
def stringBody? : Nat → List Char → List Char → Option (String × List Char)
  | 0, _, _ => none
  | _, _, [] => none
  | fuel + 1, done, c :: rest =>
    if c = '"' then some (String.ofList done.reverse, rest)
    else if c = '\\' then
      match afterBackslash? rest with
      | some (e, more) => stringBody? fuel (e :: done) more
      | none => none
    else if c.toNat < 0x20 then none
    else stringBody? fuel (c :: done) rest

/-! ## Numbers -/

/-- The greatest integer kept exactly. -/
def maxExact : Nat := Nat.pow 2 64 - 1

/-- Multiply by a power of ten; `none` on overflow. -/
def scaleUp? (x : Binary64) (power : Nat) : Option Binary64 :=
  if power ≤ 308 then
    let y := x.mul (Binary64.ofScientific false 1 power)
    if y.isInfinite then none else some y
  else if x.isZero then some x
  else none

/-- Divide by a power of ten, in steps of 10^308 at most. -/
def scaleDown : Nat → Binary64 → Nat → Binary64
  | 0, x, _ => x
  | fuel + 1, x, power =>
    if power ≤ 308 then x.div (Binary64.ofScientific false 1 power)
    else if x.isZero then x
    else scaleDown fuel (x.div (Binary64.ofScientific false 1 308)) (power - 308)

/-- The number `significand · 10 ^ exponent`; `none` when it is too large. -/
def real? (negative : Bool) (significand : Nat) (exponent : Int) : Option Binary64 :=
  let x := Binary64.ofNat significand
  let y := if 0 ≤ exponent then scaleUp? x exponent.toNat
    else some (scaleDown (exponent.natAbs / 308 + 2) x exponent.natAbs)
  y.map fun y => if negative then y.neg else y

/-- The digits taken into a significand that fits 64 bits: the significand, and how many digits
were left out once the next one no longer fitted. -/
def takeDigits (significand : Nat) : List Char → Nat × Nat
  | [] => (significand, 0)
  | d :: ds =>
    let next := significand * 10 + Decimal.digitValue d
    if next ≤ maxExact then takeDigits next ds else (significand, ds.length + 1)

/-- The sign and the digits of the power of ten after an `e`, and the rest. -/
def power? : List Char → Option (Int × List Char)
  | '+' :: rest => digits false rest
  | '-' :: rest => digits true rest
  | rest => digits false rest
where
  digits (negative : Bool) (cs : List Char) : Option (Int × List Char) :=
    let ds := cs.takeWhile Decimal.isDigit
    if ds = [] then none
    else
      let n : Int := Decimal.value ds
      some (if negative then -n else n, cs.dropWhile Decimal.isDigit)

/-- A power of ten of which only the sign matters once it is out of every range. -/
def maxPower : Int := Nat.pow 2 31 - 1

/-- A number made of its parts. -/
def assemble? (negative : Bool) (whole fraction : List Char) (power : Option Int) :
    Option Number :=
  let (s, dropped) := takeDigits 0 whole
  match fraction, power with
  | [], none =>
    if dropped ≠ 0 then (real? negative s dropped).map .real
    else if negative = false then some (.integer s)
    else if s = 0 then some (.real (Binary64.zero true))
    else if s ≤ Nat.pow 2 63 then some (.integer (-(s : Int)))
    else some (.real (Binary64.ofNat s).neg)
  | _, _ =>
    let (t, left) := takeDigits s fraction
    let p := power.getD 0
    if maxPower < p ∧ t ≠ 0 then none
    else if maxPower < p.natAbs then some (.real (Binary64.zero negative))
    else (real? negative t (p + dropped - (fraction.length - left : Nat))).map .real

/-- The number at the front, and the rest. -/
def number? (cs : List Char) : Option (Number × List Char) := do
  let (negative, body) := match cs with
    | '-' :: rest => (true, rest)
    | _ => (false, cs)
  let whole := body.takeWhile Decimal.isDigit
  let rest := body.dropWhile Decimal.isDigit
  if whole = [] ∨ (whole.head? = some '0' ∧ 1 < whole.length) then none
  let (fraction, rest) ← match rest with
    | '.' :: more =>
      let ds := more.takeWhile Decimal.isDigit
      if ds = [] then none else some (ds, more.dropWhile Decimal.isDigit)
    | _ => some ([], rest)
  let (power, rest) ← match rest with
    | 'e' :: more => (power? more).map fun (p, r) => (some p, r)
    | 'E' :: more => (power? more).map fun (p, r) => (some p, r)
    | _ => some (none, rest)
  let n ← assemble? negative whole fraction power
  return (n, rest)

/-! ## Values -/

mutual

/-- The value at the front with `depth` levels of nesting to spare, and the rest. -/
def value? : Nat → Nat → List Char → Option (Json × List Char)
  | 0, _, _ => none
  | fuel + 1, depth, cs =>
    match skip cs with
    | '"' :: rest => (stringBody? (rest.length + 1) [] rest).map fun (s, r) => (.string s, r)
    | '[' :: rest =>
      if depth ≤ 1 then none else
        match skip rest with
        | ']' :: more => some (.array [], more)
        | start => (items? fuel (depth - 1) [] start).map fun (items, r) => (.array items, r)
    | '{' :: rest =>
      if depth ≤ 1 then none else
        match skip rest with
        | '}' :: more => some (.object [], more)
        | start => (members? fuel (depth - 1) [] start).map fun (ms, r) => (.object ms, r)
    | 'n' :: 'u' :: 'l' :: 'l' :: rest => some (.null, rest)
    | 't' :: 'r' :: 'u' :: 'e' :: rest => some (.boolean true, rest)
    | 'f' :: 'a' :: 'l' :: 's' :: 'e' :: rest => some (.boolean false, rest)
    | start => (number? start).map fun (n, r) => (.number n, r)

/-- The items up to the closing bracket, with `done` before them in reverse. -/
def items? : Nat → Nat → List Json → List Char → Option (List Json × List Char)
  | 0, _, _, _ => none
  | fuel + 1, depth, done, cs =>
    match value? fuel depth cs with
    | none => none
    | some (item, rest) =>
      match skip rest with
      | ',' :: more => items? fuel depth (item :: done) more
      | ']' :: more => some ((item :: done).reverse, more)
      | _ => none

/-- The members up to the closing brace, with `done` before them in reverse. -/
def members? : Nat → Nat → List (String × Json) → List Char →
    Option (List (String × Json) × List Char)
  | 0, _, _, _ => none
  | fuel + 1, depth, done, cs =>
    match skip cs with
    | '"' :: rest =>
      match stringBody? (rest.length + 1) [] rest with
      | none => none
      | some (name, more) =>
        match skip more with
        | ':' :: start =>
          match value? fuel depth start with
          | none => none
          | some (value, tail) =>
            match skip tail with
            | ',' :: next => members? fuel depth ((name, value) :: done) next
            | '}' :: next => some (((name, value) :: done).reverse, next)
            | _ => none
        | _ => none
    | _ => none

end

/-- The nesting that is refused. -/
def maxDepth : Nat := 128

end Reader

/-- The value that a whole text holds. -/
def read? (text : String) : Option Json :=
  let cs := text.toList
  match Reader.value? (cs.length + 2) Reader.maxDepth cs with
  | some (value, rest) => if Reader.skip rest = [] then some value else none
  | none => none

end Json
end PollTunnel
