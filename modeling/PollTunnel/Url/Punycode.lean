/-!
# Punycode

The form in which a label of a domain name holds characters beyond ASCII: the ASCII characters
first, then the others by rising code point, each as a distance in digits of base 36.

* `Punycode.encode` — the form of a label, without the `xn--` in front.
* `Punycode.decode?` — the label of a form.
-/

set_option autoImplicit false

namespace PollTunnel
namespace Punycode

/-- The digit with this value: `a` to `z`, then `0` to `9`. -/
def digit (d : Nat) : Char :=
  if d < 26 then Char.ofNat (0x61 + d) else Char.ofNat (0x30 + d - 26)

/-- The value of a digit. -/
def digitValue? (c : Char) : Option Nat :=
  let n := c.toNat
  if 0x61 ≤ n ∧ n ≤ 0x7A then some (n - 0x61)
  else if 0x41 ≤ n ∧ n ≤ 0x5A then some (n - 0x41)
  else if 0x30 ≤ n ∧ n ≤ 0x39 then some (n - 0x30 + 26)
  else none

/-- The threshold of the digit at place `k`. -/
def threshold (k bias : Nat) : Nat :=
  if k ≤ bias then 1 else if bias + 26 ≤ k then 26 else k - bias

/-- Divide by 35 until the number is at most 455, counting 36 for each step. -/
def shrink (delta k : Nat) : Nat × Nat :=
  if 455 < delta then shrink (delta / 35) (k + 36) else (delta, k)
termination_by delta
decreasing_by exact Nat.div_lt_self (by omega) (by omega)

/-- The bias after a distance. -/
def adapt (delta count : Nat) (first : Bool) : Nat :=
  let d := if first then delta / 700 else delta / 2
  let (d, k) := shrink (d + d / count) 0
  k + 36 * d / (d + 38)

/-- The digits of a distance. -/
def digits : Nat → Nat → Nat → Nat → List Char
  | 0, _, _, _ => []
  | fuel + 1, q, k, bias =>
    let t := threshold k bias
    if q < t then [digit q]
    else digit (t + (q - t) % (36 - t)) :: digits fuel ((q - t) / (36 - t)) (k + 36) bias

/-- The state of the encoder after some code points. -/
structure Encoder where
  next : Nat := 128
  delta : Nat := 0
  bias : Nat := 72
  handled : Nat
  output : List Char

/-- Encode every occurrence of the code point `m` in the label. -/
def Encoder.insert (basic m : Nat) (label : List Nat) (e : Encoder) : Encoder :=
  let e := { e with delta := e.delta + (m - e.next) * (e.handled + 1) }
  let e := label.foldl (fun e c =>
    if c < m then { e with delta := e.delta + 1 }
    else if c = m then
      { e with
        output := e.output ++ digits (e.delta + 1) e.delta 36 e.bias
        bias := adapt e.delta (e.handled + 1) (e.handled == basic)
        delta := 0
        handled := e.handled + 1 }
    else e) e
  { e with next := m + 1, delta := e.delta + 1 }

/-- The form of a label. -/
def encode (label : List Char) : List Char :=
  let points := label.map Char.toNat
  let basic := label.filter fun c => c.toNat < 128
  let start : Encoder :=
    { handled := basic.length
      output := if basic = [] then [] else basic ++ ['-'] }
  let wide := (points.filter (128 ≤ ·)).eraseDups.mergeSort
  (wide.foldl (fun e m => e.insert basic.length m points) start).output

/-- The distance at the front: the sum of its digits by weight, and the rest. -/
def distance? : List Char → Nat → Nat → Nat → Nat → Option (Nat × List Char)
  | [], _, _, _, _ => none
  | c :: rest, sum, weight, k, bias =>
    match digitValue? c with
    | none => none
    | some d =>
      let sum := sum + d * weight
      if Nat.pow 2 32 ≤ sum then none
      else
        let t := threshold k bias
        if d < t then some (sum, rest)
        else distance? rest sum (weight * (36 - t)) (k + 36) bias

/-- Insert the code points that the distances describe. -/
def insertAll : Nat → List Char → Nat → Nat → Nat → List Nat → Option (List Nat)
  | 0, _, _, _, _, _ => none
  | _, [], _, _, _, output => some output
  | fuel + 1, cs, n, i, bias, output => do
    let (sum, rest) ← distance? cs 0 1 36 bias
    let count := output.length + 1
    let n := n + (i + sum) / count
    if 0x10FFFF < n ∨ (0xD800 ≤ n ∧ n < 0xE000) then none
    else
      let place := (i + sum) % count
      insertAll fuel rest n (place + 1) (adapt sum count (i == 0))
        (output.take place ++ n :: output.drop place)

/-- The label of a form. -/
def decode? (form : List Char) : Option (List Char) :=
  let back := form.reverse
  let basic := ((back.dropWhile (· != '-')).drop 1).reverse
  let rest := if form.contains '-' then (back.takeWhile (· != '-')).reverse else form
  if basic.any (fun c => 128 ≤ c.toNat) = true then none
  else
    (insertAll (form.length + 1) rest 128 0 72 (basic.map Char.toNat)).map fun points =>
      points.map Char.ofNat

example : encode "bücher".toList = "bcher-kva".toList := by decide +kernel
example : decode? "bcher-kva".toList = some "bücher".toList := by decide +kernel

end Punycode
end PollTunnel
