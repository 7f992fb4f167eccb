import PollTunnel.Number.Decimal
import PollTunnel.Toml

/-!
# Numbers, truth values and dates

`Toml.scalar?` reads a value that is written without quotes or brackets.

* Integers are decimal with an optional sign, or hexadecimal (`0x`), octal (`0o`) or binary (`0b`)
  without one; they fit 64 bits with a sign.  A single underscore may stand between two digits.
* A number with a fraction or a power of ten is a binary floating-point number; one too large is
  refused unless it is negative.
* A date has to exist in the calendar.  Fractions of a second are kept to nine places.
-/

set_option autoImplicit false

namespace PollTunnel
namespace Toml

/-! ## Numbers -/

/-- The digits of a run with single underscores between them. -/
def plainDigits? (isDigit : Char → Bool) : List Char → Option (List Char)
  | [] => none
  | [c] => if isDigit c then some [c] else none
  | c :: '_' :: rest =>
    if isDigit c then (plainDigits? isDigit rest).map (c :: ·) else none
  | c :: rest => if isDigit c then (plainDigits? isDigit rest).map (c :: ·) else none

/-- A sign in front of a number, and the rest. -/
def splitSign : List Char → Bool × List Char
  | '+' :: rest => (false, rest)
  | '-' :: rest => (true, rest)
  | cs => (false, cs)

/-- The digits of a decimal number without leading zeros. -/
def wholeDigits? (cs : List Char) : Option (List Char) :=
  match plainDigits? Decimal.isDigit cs with
  | some ds => if ds.head? = some '0' ∧ 1 < ds.length then none else some ds
  | none => none

/-- An integer, if it fits 64 bits. -/
def word? (n : Int) : Option Toml :=
  if -(Nat.pow 2 63 : Int) ≤ n ∧ n < Nat.pow 2 63 then some (.integer n) else none

/-- An integer in another base. -/
def based? (base : Nat) (isDigit : Char → Bool) (digitValue : Char → Nat) (cs : List Char) :
    Option Toml :=
  match plainDigits? isDigit cs with
  | some ds => word? (ds.foldl (fun n c => base * n + digitValue c) 0 : Nat)
  | none => none

/-- A hexadecimal digit of either case. -/
def isHexDigit (c : Char) : Bool :=
  Decimal.isDigit c || ('a' ≤ c && c ≤ 'f') || ('A' ≤ c && c ≤ 'F')

/-- The value of a hexadecimal digit. -/
def hexDigitValue (c : Char) : Nat :=
  if Decimal.isDigit c then Decimal.digitValue c
  else if 'a' ≤ c then c.toNat - 'a'.toNat + 10
  else c.toNat - 'A'.toNat + 10

/-- An integer. -/
def integer? : List Char → Option Toml
  | '0' :: 'x' :: ds => based? 16 isHexDigit hexDigitValue ds
  | '0' :: 'o' :: ds => based? 8 (fun c => '0' ≤ c && c ≤ '7') Decimal.digitValue ds
  | '0' :: 'b' :: ds => based? 2 (fun c => c == '0' || c == '1') Decimal.digitValue ds
  | cs =>
    let (negative, rest) := splitSign cs
    match wholeDigits? rest with
    | some ds =>
      let n : Int := Decimal.value ds
      word? (if negative then -n else n)
    | none => none

/-- A power of ten behind an `e`. -/
def power? (cs : List Char) : Option Int :=
  let (negative, rest) := splitSign cs
  (plainDigits? Decimal.isDigit rest).map fun ds =>
    let n : Int := Decimal.value ds
    if negative then -n else n

/-- A floating-point number, whose greatest value is refused. -/
def real? (cs : List Char) : Option Toml :=
  let (negative, rest) := splitSign cs
  if rest = "inf".toList then some (.real (Binary64.infinity negative))
  else if rest = "nan".toList then some (.real (Binary64.nan negative))
  else
    let isMark := fun c => c == 'e' || c == 'E'
    let mantissa := rest.takeWhile (!isMark ·)
    let exponent := (rest.dropWhile (!isMark ·)).drop 1
    let hasExponent := rest.any isMark
    let whole := mantissa.takeWhile (· != '.')
    let fraction := (mantissa.dropWhile (· != '.')).drop 1
    let hasFraction := mantissa.contains '.'
    if hasExponent || hasFraction then
      match wholeDigits? whole,
        if hasFraction then plainDigits? Decimal.isDigit fraction else some [],
        if hasExponent then power? exponent else some 0 with
      | some w, some f, some p =>
        let x := Binary64.ofScientific negative (Decimal.value (w ++ f)) (p - f.length)
        if x.isInfinite && !negative then none else some (.real x)
      | _, _, _ => none
    else none

/-! ## Dates and times -/

/-- Exactly so many digits, and the rest. -/
def digits? (count : Nat) (cs : List Char) : Option (Nat × List Char) :=
  let ds := cs.take count
  if ds.length = count ∧ ds.all Decimal.isDigit = true then some (Decimal.value ds, cs.drop count)
  else none

/-- The text after one given character. -/
def skip? (c : Char) : List Char → Option (List Char)
  | d :: rest => if d = c then some rest else none
  | [] => none

/-- The days of a month. -/
def daysOf (year month : Nat) : Nat :=
  if month = 2 then
    if (year % 4 = 0 ∧ year % 100 ≠ 0) ∨ year % 400 = 0 then 29 else 28
  else if month = 4 ∨ month = 6 ∨ month = 9 ∨ month = 11 then 30
  else 31

/-- The date at the front, as it is written, and the rest. -/
def date? (cs : List Char) : Option (List Char × List Char) := do
  let (year, r) ← digits? 4 cs
  let (month, r) ← digits? 2 (← skip? '-' r)
  let (day, r) ← digits? 2 (← skip? '-' r)
  if 1 ≤ month ∧ month ≤ 12 ∧ 1 ≤ day ∧ day ≤ daysOf year month then
    return (cs.take 10, r)
  else none

/-- The fraction of a second at the front without trailing zeros, if there is one; the rest. -/
def fraction? : List Char → Option (List Char × List Char)
  | '.' :: cs =>
    let ds := cs.takeWhile Decimal.isDigit
    let kept := ((ds.take 9).reverse.dropWhile (· == '0')).reverse
    if ds = [] then none
    else some (if kept = [] then [] else '.' :: kept, cs.dropWhile Decimal.isDigit)
  | cs => some ([], cs)

/-- The time at the front in its normal form, and the rest. -/
def time? (cs : List Char) : Option (List Char × List Char) := do
  let (hour, r) ← digits? 2 cs
  let (minute, r) ← digits? 2 (← skip? ':' r)
  let (second, r) ← digits? 2 (← skip? ':' r)
  if hour ≤ 23 ∧ minute ≤ 59 ∧ second ≤ 60 then
    let (fraction, r) ← fraction? r
    return (cs.take 8 ++ fraction, r)
  else none

/-- The offset that a whole text spells, in its normal form. -/
def offset? (cs : List Char) : Option (List Char) :=
  match cs with
  | [] => some []
  | ['Z'] => some ['Z']
  | ['z'] => some ['Z']
  | sign :: rest => do
    if sign ≠ '+' ∧ sign ≠ '-' then none
    let (hour, r) ← digits? 2 rest
    let (minute, r) ← digits? 2 (← skip? ':' r)
    if r = [] ∧ hour ≤ 23 ∧ minute ≤ 59 then
      let shown := if hour = 0 ∧ minute = 0 then '+' else sign
      return shown :: rest
    else none

/-- A date, a time, or a date and a time with an optional offset. -/
def datetime? (cs : List Char) : Option Toml :=
  match date? cs with
  | some (date, []) => some (.datetime (String.ofList date))
  | some (date, c :: rest) =>
    if c = 'T' ∨ c = 't' ∨ c = ' ' then do
      let (time, r) ← time? rest
      let offset ← offset? r
      return .datetime (String.ofList (date ++ 'T' :: time ++ offset))
    else none
  | none =>
    match time? cs with
    | some (time, []) => some (.datetime (String.ofList time))
    | _ => none

/-! ## Any of them -/

/-- A value written without quotes or brackets. -/
def scalar? (cs : List Char) : Option Toml :=
  if cs = "true".toList then some (.boolean true)
  else if cs = "false".toList then some (.boolean false)
  else
    match datetime? cs with
    | some v => some v
    | none =>
      match real? cs with
      | some v => some v
      | none => integer? cs

/-- Characters of values written without quotes or brackets. -/
def isScalarChar (c : Char) : Bool :=
  c.isAlphanum || c == '_' || c == '+' || c == '-' || c == '.' || c == ':'

end Toml
end PollTunnel
