import PollTunnel.Bytes

/-!
# UTF-8, read strictly and read leniently

`Utf8.next` splits the first scalar value off a byte string, or says how many octets of a broken
sequence are to be skipped: the longest beginning of a well-formed sequence, and at least one.

* `Utf8.decode?` — the text of a byte string, if every sequence in it is well formed.
* `Utf8.decodeLossy` — the text with each broken sequence replaced by U+FFFD.
-/

set_option autoImplicit false

namespace PollTunnel
namespace Utf8

/-- What stands at the front of a byte string. -/
inductive Front where
  /-- A well-formed sequence for one scalar value. -/
  | scalar (value : Char) (rest : Bytes)
  /-- A sequence that breaks off, with what follows it. -/
  | broken (rest : Bytes)

/-- What remains after the front. -/
def Front.rest : Front → Bytes
  | .scalar _ rest => rest
  | .broken rest => rest

/-- A continuation octet lies between 80 and BF. -/
def isTail (b : UInt8) : Bool := 0x80 ≤ b && b ≤ 0xBF

/-- The octets allowed after a lead octet: narrower than a tail where a tail would give an
overlong form, a surrogate or a value past U+10FFFF. -/
def isSecond (lead b : UInt8) : Bool :=
  if lead = 0xE0 then 0xA0 ≤ b && b ≤ 0xBF
  else if lead = 0xED then 0x80 ≤ b && b ≤ 0x9F
  else if lead = 0xF0 then 0x90 ≤ b && b ≤ 0xBF
  else if lead = 0xF4 then 0x80 ≤ b && b ≤ 0x8F
  else isTail b

/-- The six payload bits of a continuation octet. -/
def tailBits (b : UInt8) : Nat := b.toNat % 64

/-- The front of a byte string that begins with `lead`. -/
def next (lead : UInt8) (rest : Bytes) : Front :=
  if lead < 0x80 then .scalar (Char.ofNat lead.toNat) rest
  else if lead < 0xC2 then .broken rest
  else if lead < 0xE0 then
    match rest with
    | b :: more =>
      if isTail b then .scalar (Char.ofNat (lead.toNat % 32 * 64 + tailBits b)) more
      else .broken rest
    | [] => .broken rest
  else if lead < 0xF0 then
    match rest with
    | b :: more =>
      if isSecond lead b then
        match more with
        | c :: tail =>
          if isTail c then
            .scalar (Char.ofNat ((lead.toNat % 16 * 64 + tailBits b) * 64 + tailBits c)) tail
          else .broken more
        | [] => .broken more
      else .broken rest
    | [] => .broken rest
  else if lead < 0xF5 then
    match rest with
    | b :: more =>
      if isSecond lead b then
        match more with
        | c :: tail =>
          if isTail c then
            match tail with
            | d :: last =>
              if isTail d then
                .scalar (Char.ofNat
                  (((lead.toNat % 8 * 64 + tailBits b) * 64 + tailBits c) * 64 + tailBits d)) last
              else .broken tail
            | [] => .broken tail
          else .broken more
        | [] => .broken more
      else .broken rest
    | [] => .broken rest
  else .broken rest

theorem length_rest_next (lead : UInt8) (rest : Bytes) :
    (next lead rest).rest.length ≤ rest.length := by
  unfold next
  repeat' split
  all_goals simp only [Front.rest, List.length_cons]
  all_goals omega

/-- The scalar value at a front, `none` for a broken sequence. -/
def Front.value? : Front → Option Char
  | .scalar c _ => some c
  | .broken _ => none

/-- The scalar values of a byte string, `none` where a sequence is broken. -/
def pieces : Bytes → List (Option Char)
  | [] => []
  | lead :: rest => (next lead rest).value? :: pieces (next lead rest).rest
termination_by bytes => bytes.length
decreasing_by
  have shorter := length_rest_next lead rest
  simp only [List.length_cons]
  omega

/-- The text of a byte string, if it is well formed throughout. -/
def decode? (bytes : Bytes) : Option String :=
  ((pieces bytes).mapM id).map String.ofList

/-- The text of a byte string, with U+FFFD for each broken sequence. -/
def decodeLossy (bytes : Bytes) : String :=
  String.ofList ((pieces bytes).map (·.getD (Char.ofNat 0xFFFD)))

end Utf8
end PollTunnel
