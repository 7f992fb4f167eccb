/-!
# Binary floating-point numbers of 64 bits

A `Binary64` is held as its bits, and every operation is exact arithmetic on natural numbers
followed by one rounding, so nothing here depends on the machine's own arithmetic.

* `Binary64.ofRatio` — the nearest number to a quotient, ties to the even significand.
* `Binary64.ofScientific` — the nearest number to `digits · 10 ^ exponent`.
* `Binary64.mul`, `Binary64.div` — a product and a quotient, rounded once.
-/

set_option autoImplicit false

namespace PollTunnel

/-- A binary floating-point datum: sign, eleven bits of exponent, fifty-two bits of fraction. -/
structure Binary64 where
  /-- The datum's bits, the sign on top. -/
  bits : UInt64
  deriving DecidableEq, Inhabited

namespace Binary64

/-- What the bits say, for a number that is finite: `significand · 2 ^ exponent`. -/
structure Magnitude where
  significand : Nat
  exponent : Int

/-- The sign bit is set. -/
def isNegative (x : Binary64) : Bool := Nat.pow 2 63 ≤ x.bits.toNat

/-- The biased exponent. -/
def exponentField (x : Binary64) : Nat := x.bits.toNat / Nat.pow 2 52 % 2048

/-- The fraction, without the leading bit that a normal number implies. -/
def fraction (x : Binary64) : Nat := x.bits.toNat % Nat.pow 2 52

/-- The datum is no number. -/
def isNaN (x : Binary64) : Bool := x.exponentField == 2047 && x.fraction != 0

/-- The datum is an infinity. -/
def isInfinite (x : Binary64) : Bool := x.exponentField == 2047 && x.fraction == 0

/-- The datum is a number. -/
def isFinite (x : Binary64) : Bool := x.exponentField != 2047

/-- The datum is a zero of either sign. -/
def isZero (x : Binary64) : Bool := x.exponentField == 0 && x.fraction == 0

/-- The magnitude of a finite datum. -/
def magnitude (x : Binary64) : Magnitude :=
  if x.exponentField = 0 then ⟨x.fraction, -1074⟩
  else ⟨Nat.pow 2 52 + x.fraction, x.exponentField - 1075⟩

/-- The same datum with the sign bit given. -/
def withSign (negative : Bool) (magnitudeBits : Nat) : Binary64 :=
  ⟨(if negative then Nat.pow 2 63 + magnitudeBits else magnitudeBits).toUInt64⟩

/-- An infinity. -/
def infinity (negative : Bool) : Binary64 := withSign negative (2047 * Nat.pow 2 52)

/-- The quiet datum that is no number. -/
def nan (negative : Bool) : Binary64 := withSign negative (2047 * Nat.pow 2 52 + Nat.pow 2 51)

/-- A zero. -/
def zero (negative : Bool) : Binary64 := withSign negative 0

/-- A quotient rounded to a natural number, a half going to the even neighbour. -/
def roundQuotient (num den : Nat) : Nat :=
  let q := num / den
  let r := num % den
  if 2 * r < den then q
  else if den < 2 * r then q + 1
  else if q % 2 = 0 then q else q + 1

/-- `n · 2 ^ e` as a quotient of natural numbers, applied to a quotient. -/
def scaled (num den : Nat) (e : Int) : Nat × Nat :=
  if 0 ≤ e then (num * Nat.pow 2 e.toNat, den) else (num, den * Nat.pow 2 (-e).toNat)

/-- The exponent of the unit in the last place of a number close to `num / den`. -/
def unitExponent (num den : Nat) : Int :=
  let guess : Int := (num.log2 : Int) - (den.log2 : Int)
  let (n, d) := scaled num den (-guess)
  let floorLog := if d ≤ n then guess else guess - 1
  max (floorLog - 52) (-1074)

/-- The number nearest to `num / den`, ties to the even significand. -/
def ofRatio (negative : Bool) (num den : Nat) : Binary64 :=
  if num = 0 then zero negative else
    let e := unitExponent num den
    let (n, d) := scaled num den (-e)
    let m := roundQuotient n d
    let field := if m < Nat.pow 2 52 then m else (e + 1074).toNat * Nat.pow 2 52 + m
    if 2047 * Nat.pow 2 52 ≤ field then infinity negative else withSign negative field

/-- The number nearest to a natural number. -/
def ofNat (n : Nat) : Binary64 := ofRatio false n 1

/-- The number of decimal digits of a natural number, counted from its binary length and never
too small. -/
def digitBound (n : Nat) : Int := (n.log2 : Int) * 30103 / 100000 + 1

/-- The number nearest to `digits · 10 ^ exponent`.  Exponents far outside the format's range are
settled without forming the power. -/
def ofScientific (negative : Bool) (digits : Nat) (exponent : Int) : Binary64 :=
  if digits = 0 then zero negative
  else if 312 < exponent then infinity negative
  else if exponent + digitBound digits < -330 then zero negative
  else if 0 ≤ exponent then ofRatio negative (digits * Nat.pow 10 exponent.toNat) 1
  else ofRatio negative digits (Nat.pow 10 (-exponent).toNat)

/-- The product of two finite numbers, rounded once. -/
def mul (x y : Binary64) : Binary64 :=
  let a := x.magnitude
  let b := y.magnitude
  let (n, d) := scaled (a.significand * b.significand) 1 (a.exponent + b.exponent)
  ofRatio (x.isNegative != y.isNegative) n d

/-- The quotient of two finite numbers, rounded once; the divisor is not zero. -/
def div (x y : Binary64) : Binary64 :=
  let a := x.magnitude
  let b := y.magnitude
  let (n, d) := scaled a.significand b.significand (a.exponent - b.exponent)
  ofRatio (x.isNegative != y.isNegative) n d

/-- The number with the opposite sign. -/
def neg (x : Binary64) : Binary64 :=
  withSign (!x.isNegative) (x.bits.toNat % Nat.pow 2 63)

/-- A finite non-negative number rounded to an integer, a half going up. -/
def roundHalfUp (x : Binary64) : Nat :=
  let a := x.magnitude
  let (n, d) := scaled a.significand 1 a.exponent
  (2 * n + d) / (2 * d)

example : (ofScientific false 1 0).bits = 0x3FF0000000000000 := by decide +kernel
example : (ofScientific false 5 (-324)).bits = 1 := by decide +kernel
example : (ofScientific true 15 (-1)).bits = 0xBFF8000000000000 := by decide +kernel

end Binary64
end PollTunnel
