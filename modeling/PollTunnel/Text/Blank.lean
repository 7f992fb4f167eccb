/-!
# White space

`Text.isBlank` is Unicode's property White_Space, and `Text.trim` strips it from both ends.
-/

set_option autoImplicit false

namespace PollTunnel
namespace Text

/-- A character with the Unicode property White_Space. -/
def isBlank (c : Char) : Bool :=
  let n := c.toNat
  (9 ≤ n && n ≤ 13) || n == 0x20 || n == 0x85 || n == 0xA0 || n == 0x1680 ||
    (0x2000 ≤ n && n ≤ 0x200A) || n == 0x2028 || n == 0x2029 || n == 0x202F || n == 0x205F ||
    n == 0x3000

/-- The characters left when `drop` is stripped from both ends. -/
def trimBy (drop : Char → Bool) (cs : List Char) : List Char :=
  ((cs.dropWhile drop).reverse.dropWhile drop).reverse

/-- A text without the white space around it. -/
def trim (s : String) : String := String.ofList (trimBy isBlank s.toList)

end Text
end PollTunnel
