/-!
# Lengths of time

A `Duration` counts nanoseconds.  `Duration.text` writes it in the largest of s, ms, µs and ns of
which it holds at least one, with the fraction's trailing zeros left out.
-/

set_option autoImplicit false

namespace PollTunnel

/-- A length of time. -/
structure Duration where
  /-- Its nanoseconds. -/
  nanos : Nat
  deriving DecidableEq, Repr, Inhabited

namespace Duration

def ofNanos (n : Nat) : Duration := ⟨n⟩

def ofMillis (n : Nat) : Duration := ⟨n * 1000000⟩

def ofSeconds (n : Nat) : Duration := ⟨n * 1000000000⟩

/-- Whole milliseconds. -/
def millis (d : Duration) : Nat := d.nanos / 1000000

instance : LE Duration := ⟨fun a b => a.nanos ≤ b.nanos⟩

instance : LT Duration := ⟨fun a b => a.nanos < b.nanos⟩

instance (a b : Duration) : Decidable (a ≤ b) := inferInstanceAs (Decidable (a.nanos ≤ b.nanos))

instance (a b : Duration) : Decidable (a < b) := inferInstanceAs (Decidable (a.nanos < b.nanos))

/-- The digits of a fraction of `places` places, without trailing zeros. -/
def fractionDigits (places n : Nat) : List Char :=
  let shown := (toString n).toList
  let padded := List.replicate (places - shown.length) '0' ++ shown
  (padded.reverse.dropWhile (· == '0')).reverse

/-- `n` in a unit of `10 ^ places` nanoseconds. -/
def inUnit (n places : Nat) (unit : String) : String :=
  let fraction := fractionDigits places (n % Nat.pow 10 places)
  toString (n / Nat.pow 10 places) ++
    (if fraction = [] then "" else "." ++ String.ofList fraction) ++ unit

/-- The duration in its largest fitting unit. -/
def text (d : Duration) : String :=
  if Nat.pow 10 9 ≤ d.nanos then inUnit d.nanos 9 "s"
  else if Nat.pow 10 6 ≤ d.nanos then inUnit d.nanos 6 "ms"
  else if Nat.pow 10 3 ≤ d.nanos then inUnit d.nanos 3 "µs"
  else toString d.nanos ++ "ns"

end Duration
end PollTunnel
