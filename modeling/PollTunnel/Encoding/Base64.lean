import PollTunnel.Bytes

/-!
# Base 64

Four symbols of six bits stand for three octets; the last group may be shorter, and is then filled
up with padding or not, as its user wants it.

* `Base64.encode` — the symbols of a byte string, without padding.
* `Base64.decode` — the bytes of a list of symbols, or the first fault in it.

Only one spelling of a byte string is accepted: the bits of the last symbol that no octet takes
have to be zero, and padding is either complete or absent.
-/

set_option autoImplicit false

namespace PollTunnel
namespace Base64

/-- The two symbols in which alphabets differ. -/
structure Alphabet where
  symbol62 : Char
  symbol63 : Char

/-- The alphabet of keys in armour. -/
def Alphabet.standard : Alphabet := ⟨'+', '/'⟩

/-- The alphabet of tokens. -/
def Alphabet.urlSafe : Alphabet := ⟨'-', '_'⟩

/-- Whether the last group is filled up. -/
inductive Padding where
  | complete
  | absent
  deriving DecidableEq, Repr

/-- The symbol that fills up a group. -/
def padSymbol : UInt8 := Bytes.octet '='

/-- A fault, with where it is. -/
inductive Error where
  | invalidSymbol (symbol : UInt8) (offset : Nat)
  /-- The symbol is in the alphabet but has bits that no octet takes. -/
  | invalidLastSymbol (symbol : UInt8) (offset : Nat)
  | invalidLength (length : Nat)
  | invalidPadding
  deriving DecidableEq, Repr

/-- The message for a fault. -/
def Error.message : Error → String
  | .invalidSymbol symbol offset =>
    "Invalid symbol " ++ toString symbol.toNat ++ ", offset " ++ toString offset ++ "."
  | .invalidLastSymbol symbol offset =>
    "Invalid last symbol " ++ toString symbol.toNat ++ ", offset " ++ toString offset ++ "."
  | .invalidLength length => "Invalid input length: " ++ toString length
  | .invalidPadding => "Invalid padding"

/-! ## Symbols -/

/-- The symbol of a number below 64. -/
def symbol (a : Alphabet) (n : Nat) : Char :=
  if n < 26 then Char.ofNat ('A'.toNat + n)
  else if n < 52 then Char.ofNat ('a'.toNat + (n - 26))
  else if n < 62 then Char.ofNat ('0'.toNat + (n - 52))
  else if n = 62 then a.symbol62
  else a.symbol63

/-- The number that a symbol stands for. -/
def value? (a : Alphabet) (b : UInt8) : Option Nat :=
  (List.range 64).find? fun n => Bytes.octet (symbol a n) == b

/-- The numbers below 64 that make up three octets or fewer. -/
def sextets : Bytes → List Nat
  | [] => []
  | [x] => [x.toNat / 4, x.toNat % 4 * 16]
  | [x, y] => [x.toNat / 4, x.toNat % 4 * 16 + y.toNat / 16, y.toNat % 16 * 4]
  | x :: y :: z :: rest =>
    x.toNat / 4 :: (x.toNat % 4 * 16 + y.toNat / 16) :: (y.toNat % 16 * 4 + z.toNat / 64) ::
      z.toNat % 64 :: sextets rest

/-- The symbols of a byte string, without padding. -/
def encode (a : Alphabet) (bytes : Bytes) : String :=
  String.ofList ((sextets bytes).map (symbol a))

/-! ## Reading -/

/-- The octets of one group: three for four numbers, and one less for each number missing. -/
def octets : List Nat → Bytes
  | [p, q] => [(p * 4 + q / 16).toUInt8]
  | [p, q, r] => [(p * 4 + q / 16).toUInt8, (q % 16 * 16 + r / 4).toUInt8]
  | [p, q, r, s] =>
    [(p * 4 + q / 16).toUInt8, (q % 16 * 16 + r / 4).toUInt8, (r % 4 * 64 + s).toUInt8]
  | _ => []

/-- The bits of the last number that no octet takes. -/
def spareBits : List Nat → Nat
  | [_, q] => q % 16
  | [_, _, r] => r % 4
  | _ => 0

/-- The numbers that symbols stand for; the first symbol is at `offset`. -/
def numbers (a : Alphabet) : Nat → Bytes → Except Error (List Nat)
  | _, [] => .ok []
  | offset, b :: rest =>
    match value? a b with
    | none => .error (.invalidSymbol b offset)
    | some n => (numbers a (offset + 1) rest).map (n :: ·)

/-- The symbols before the padding and the symbols from it on; padding is looked for from the third
symbol on. -/
def splitPadding : Bytes → Bytes × Bytes
  | p :: q :: rest =>
    (p :: q :: rest.takeWhile (· != padSymbol), rest.dropWhile (· != padSymbol))
  | symbols => (symbols, [])

/-- The bytes of the last group, whose first symbol is at `offset`. -/
def lastGroup (a : Alphabet) (padding : Padding) (offset : Nat) (group : Bytes) :
    Except Error Bytes := do
  let (symbols, pads) := splitPadding group
  let ns ← numbers a offset symbols
  if pads.any (· != padSymbol) then throw (.invalidSymbol padSymbol (offset + symbols.length))
  if group ≠ [] ∧ ns.length < 2 then throw (.invalidLength (offset + ns.length))
  match padding with
  | .complete => if group.length % 4 ≠ 0 then throw .invalidPadding
  | .absent => if pads ≠ [] then throw .invalidPadding
  if spareBits ns ≠ 0 then
    throw (.invalidLastSymbol (symbols.getLastD 0) (offset + ns.length - 1))
  return octets ns

/-- The bytes of all groups, the first symbol being at `offset`. -/
def groups (a : Alphabet) (padding : Padding) : Nat → Bytes → Except Error Bytes
  | offset, p :: q :: r :: s :: t :: rest => do
    let ns ← numbers a offset [p, q, r, s]
    let bytes ← groups a padding (offset + 4) (t :: rest)
    return octets ns ++ bytes
  | offset, group => lastGroup a padding offset group

/-- A last symbol beyond whole groups that is neither in the alphabet nor padding. -/
def straySymbol? (a : Alphabet) (symbols : Bytes) : Option UInt8 :=
  if symbols.length % 4 = 1 then
    symbols.getLast?.filter fun b => (value? a b).isNone && b != padSymbol
  else none

/-- The bytes that symbols stand for.  A stray last symbol is reported before any other fault. -/
def decode (a : Alphabet) (padding : Padding) (symbols : Bytes) : Except Error Bytes :=
  match straySymbol? a symbols with
  | some b => .error (.invalidSymbol b (symbols.length - 1))
  | none => groups a padding 0 symbols

example : encode .urlSafe (Bytes.ofString "fooba") = "Zm9vYmE" := by decide +kernel
example : (decode .standard .complete (Bytes.ofString "Zm9vYmE=")).toOption =
    some (Bytes.ofString "fooba") := by
  decide +kernel

end Base64
end PollTunnel
