import PollTunnel.Number.Binary64

/-!
# The fewest digits that read back

`Shortest.digits` picks the decimal numeral with the fewest digits among those that round to a
given number, and of these the nearest to it.  It walks down the powers of ten and stops at the
first grid on which one of the number's two neighbours lies in the interval of reals that round to
it.

`Shortest.render` writes the digits; a `Shortest.Style` says where positional notation ends and
whether a number without a fraction shows one.
-/

set_option autoImplicit false

namespace PollTunnel
namespace Shortest

/-- A decimal numeral `digits · 10 ^ exponent`. -/
structure Numeral where
  digits : Nat
  exponent : Int
  deriving DecidableEq

/-- The reals that round to a number, and the number itself, over one denominator. -/
structure Interval where
  low : Nat
  middle : Nat
  high : Nat
  denominator : Nat
  /-- Whether the ends belong to it. -/
  closed : Bool

/-- The interval of the reals that round to `significand · 2 ^ exponent`. -/
def interval (m : Binary64.Magnitude) : Interval :=
  let e := m.exponent - 2
  let up := if 0 ≤ e then Nat.pow 2 e.toNat else 1
  let den := if 0 ≤ e then 1 else Nat.pow 2 (-e).toNat
  let below := if m.significand = Nat.pow 2 52 ∧ -1074 < m.exponent then 1 else 2
  { low := (4 * m.significand - below) * up
    middle := 4 * m.significand * up
    high := (4 * m.significand + 2) * up
    denominator := den
    closed := m.significand % 2 == 0 }

/-- The interval with every bound multiplied so that a grid step of `10 ^ g` becomes the
denominator. -/
def Interval.onGrid (i : Interval) (g : Int) : Interval :=
  let up := if 0 ≤ g then 1 else Nat.pow 10 (-g).toNat
  let den := if 0 ≤ g then i.denominator * Nat.pow 10 g.toNat else i.denominator
  { i with low := i.low * up, middle := i.middle * up, high := i.high * up, denominator := den }

/-- The grid point lies in the interval. -/
def Interval.holds (i : Interval) (c : Nat) : Bool :=
  let x := c * i.denominator
  if i.closed then i.low ≤ x && x ≤ i.high else i.low < x && x < i.high

/-- The better of the two grid points beside the number, if either lies in the interval. -/
def Interval.pick (i : Interval) : Option Nat :=
  let c := i.middle / i.denominator
  match 0 < c && i.holds c, i.holds (c + 1) with
  | true, true =>
    let below := i.middle - c * i.denominator
    let above := (c + 1) * i.denominator - i.middle
    if below < above then some c
    else if above < below then some (c + 1)
    else some (if c % 2 = 0 then c else c + 1)
  | true, false => some c
  | false, true => some (c + 1)
  | false, false => none

/-- Walk down the grids from `10 ^ g`. -/
def search (i : Interval) : Nat → Int → Numeral
  | 0, g => ⟨i.middle / i.denominator, g⟩
  | steps + 1, g =>
    match (i.onGrid g).pick with
    | some c => ⟨c, g⟩
    | none => search i steps (g - 1)

/-- The numeral with the fewest digits that reads back as a finite number other than zero. -/
def digits (x : Binary64) : Numeral :=
  let m := x.magnitude
  let top : Int := ((m.significand.log2 : Int) + m.exponent + 1) * 30103 / 100000 + 2
  search (interval m) 400 top

/-- How a format writes numbers. -/
structure Style where
  /-- The greatest power of ten written positionally, if there is one. -/
  positionalBelow : Option Int
  /-- The least power of ten of the first digit written positionally, if there is one. -/
  positionalFrom : Option Int
  /-- Whether a number without a fraction is written with one zero after the point. -/
  keepsPoint : Bool

/-- Digits with the point where the exponent puts it. -/
def positional (style : Style) (ds : List Char) (exponent : Int) : List Char :=
  if 0 ≤ exponent then
    ds ++ List.replicate exponent.toNat '0' ++ (if style.keepsPoint then ['.', '0'] else [])
  else
    let places := (-exponent).toNat
    if places < ds.length then
      ds.take (ds.length - places) ++ '.' :: ds.drop (ds.length - places)
    else ['0', '.'] ++ List.replicate (places - ds.length) '0' ++ ds

/-- Digits with the point behind the first and the power of ten after an `e`. -/
def scientific (ds : List Char) (power : Int) : List Char :=
  let fraction := ds.drop 1
  ds.take 1 ++ (if fraction = [] then [] else '.' :: fraction) ++
    'e' :: (toString power).toList

/-- The text of a number in a style: `NaN`, `inf`, or its digits behind a sign. -/
def render (style : Style) (x : Binary64) : String :=
  if x.isNaN then "NaN" else
    let sign := if x.isNegative then ['-'] else []
    let body :=
      if x.isInfinite then "inf".toList
      else if x.isZero then (if style.keepsPoint then ['0', '.', '0'] else ['0'])
      else
        let n := digits x
        let ds := (toString n.digits).toList
        let power := n.exponent + ds.length - 1
        let small := match style.positionalFrom with
          | some least => decide (power < least)
          | none => false
        let large := match style.positionalBelow with
          | some bound => decide (bound ≤ power)
          | none => false
        if small || large then scientific ds power else positional style ds n.exponent
    String.ofList (sign ++ body)

/-- The style of logged values: positional from 0.0001 and below 10^16, with a point always. -/
def logged : Style := ⟨some 16, some (-4), true⟩

/-- The style of messages: positional always, with a point always. -/
def spoken : Style := ⟨none, none, true⟩

example : render logged (Binary64.ofScientific false 6626 (-37)) = "6.626e-34" := by decide +kernel
example : render logged (Binary64.ofScientific false 1000 0) = "1000.0" := by decide +kernel
example : render logged (Binary64.ofScientific true 0 0) = "-0.0" := by decide +kernel
example : render spoken (Binary64.ofScientific false 15 (-1)) = "1.5" := by decide +kernel

end Shortest
end PollTunnel
