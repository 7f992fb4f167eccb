import PollTunnel.Bytes

/-!
# Random identifiers

`Uuid.text` writes sixteen random octets as an identifier: in hexadecimal, in five groups, with the
marks that tell that they are random.
-/

set_option autoImplicit false

namespace PollTunnel
namespace Uuid

/-- Octets with the marks of a random identifier: four bits in the seventh octet and two in the
ninth. -/
def mark (octets : Bytes) : Bytes :=
  octets.mapIdx fun i b =>
    if i = 6 then (b &&& 0x0F) ||| 0x40 else if i = 8 then (b &&& 0x3F) ||| 0x80 else b

/-- The lengths of the groups, in octets. -/
def groups : List Nat := [4, 2, 2, 2, 6]

/-- Cut a list into groups of these lengths. -/
def cut (octets : Bytes) : List Nat → List Bytes
  | [] => []
  | n :: rest => octets.take n :: cut (octets.drop n) rest

/-- The identifier that sixteen random octets make. -/
def text (octets : Bytes) : String := "-".intercalate ((cut (mark octets) groups).map Bytes.hex)

example : text (List.replicate 16 0xFF) = "ffffffff-ffff-4fff-bfff-ffffffffffff" := by decide +kernel

end Uuid
end PollTunnel
