/-!
# Byte strings

Everything that travels through the tunnel is a list of octets.

* `Bytes.ofString` — the UTF-8 form of a text.
* `Bytes.hex` — the lowercase hexadecimal dump of a byte string, two digits for each octet.
-/

set_option autoImplicit false

namespace PollTunnel

/-- A finite sequence of octets. -/
abbrev Bytes := List UInt8

namespace Bytes

/-- The UTF-8 form of a text. -/
def ofString (s : String) : Bytes := s.toList.flatMap String.utf8EncodeChar

/-- The octet of a character below 256. -/
def octet (c : Char) : UInt8 := c.toNat.toUInt8

/-- The lowercase hexadecimal digit of a number below sixteen. -/
def hexDigit (n : Nat) : Char :=
  if n < 10 then Char.ofNat ('0'.toNat + n) else Char.ofNat ('a'.toNat + (n - 10))

/-- The two hexadecimal digits of an octet, the high one first. -/
def hexPair (b : UInt8) : List Char := [hexDigit (b.toNat / 16), hexDigit (b.toNat % 16)]

/-- The lowercase hexadecimal dump of a byte string. -/
def hex (bytes : Bytes) : String := String.ofList (bytes.flatMap hexPair)

/-- The value of a hexadecimal digit of either case. -/
def hexValue? (c : Char) : Option Nat :=
  if '0' ≤ c ∧ c ≤ '9' then some (c.toNat - '0'.toNat)
  else if 'a' ≤ c ∧ c ≤ 'f' then some (c.toNat - 'a'.toNat + 10)
  else if 'A' ≤ c ∧ c ≤ 'F' then some (c.toNat - 'A'.toNat + 10)
  else none

/-- The bytes that a hexadecimal dump stands for; `none` for an odd number of digits or a
character that is no digit. -/
def ofHexDigits? : List Char → Option Bytes
  | [] => some []
  | [_] => none
  | high :: low :: rest => do
    let h ← hexValue? high
    let l ← hexValue? low
    let bytes ← ofHexDigits? rest
    return (16 * h + l).toUInt8 :: bytes

/-- The bytes of a big-endian number, exactly `size` of them. -/
def ofNat (size n : Nat) : Bytes :=
  (List.range size).foldl (fun acc i => (n / Nat.pow 256 i % 256).toUInt8 :: acc) []

/-- The number that bytes denote, most significant first. -/
def toNat (bytes : Bytes) : Nat := bytes.foldl (fun acc b => acc * 256 + b.toNat) 0

end Bytes
end PollTunnel
