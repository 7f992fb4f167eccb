/-!
# Decimal numerals

* `Decimal.natural?` — the value of a non-empty run of digits.
* `Decimal.integer?` — the value of a run of digits with an optional sign.
* `Decimal.unsigned?` — the value of a run of digits with an optional plus sign.

None of them sets an upper bound; each caller states its own.
-/

set_option autoImplicit false

namespace PollTunnel
namespace Decimal

/-- One of the ten ASCII digits. -/
def isDigit (c : Char) : Bool := '0' ≤ c && c ≤ '9'

/-- The value of a digit. -/
def digitValue (c : Char) : Nat := c.toNat - '0'.toNat

/-- The value of a run of digits, most significant first. -/
def value (digits : List Char) : Nat := digits.foldl (fun acc c => 10 * acc + digitValue c) 0

/-- The value of a numeral made of digits only. -/
def natural? (cs : List Char) : Option Nat :=
  if cs ≠ [] ∧ cs.all isDigit = true then some (value cs) else none

/-- The value of a numeral that may begin with one sign. -/
def integer? : List Char → Option Int
  | '+' :: digits => (natural? digits).map Int.ofNat
  | '-' :: digits => (natural? digits).map fun n => -Int.ofNat n
  | digits => (natural? digits).map Int.ofNat

/-- The value of a numeral that may begin with a plus sign. -/
def unsigned? : List Char → Option Nat
  | '+' :: digits => natural? digits
  | digits => natural? digits

end Decimal
end PollTunnel
