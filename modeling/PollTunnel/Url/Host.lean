import PollTunnel.Net.SocketAddress
import PollTunnel.Text.Case
import PollTunnel.Text.Utf8
import PollTunnel.Url.Percent
import PollTunnel.Url.Punycode

/-!
# Hosts of URLs

* `Host.ofDomain?` — the ASCII form of a domain name: escapes decoded, letters in lower case, labels
  beyond ASCII in Punycode.
* `Host.ofNumbers?` — a version 4 address written as one to four numbers, each decimal, octal
  (`0…`) or hexadecimal (`0x…`); the last one fills the octets that are left.
* `Host.parse?` — any of these, or a version 6 address in brackets.
-/

set_option autoImplicit false

namespace PollTunnel

/-- The host of a URL. -/
inductive Host where
  | domain (name : String)
  | v4 (number : Nat)
  | v6 (groups : List Nat)
  deriving DecidableEq, Repr

namespace Host

/-! ## Domain names -/

/-- Characters that no domain name has. -/
def isForbidden (c : Char) : Bool :=
  c.toNat ≤ 0x20 || c.toNat == 0x7F || "#/:<>?@[\\]^|%".toList.contains c

/-- Characters that vanish from a domain name. -/
def isIgnored (c : Char) : Bool :=
  let n := c.toNat
  n == 0xAD || n == 0x200B || n == 0x2060 || n == 0xFEFF || (0x180B ≤ n && n ≤ 0x180D) ||
    (0xFE00 ≤ n && n ≤ 0xFE0F)

/-- Characters beyond ASCII that no label has: controls, spaces, directional marks, private use and
code points that are no characters. -/
def isDisallowed (c : Char) : Bool :=
  let n := c.toNat
  (0x80 ≤ n && n ≤ 0xA0) || n == 0x1680 || (0x2000 ≤ n && n ≤ 0x200A) ||
    (0x200E ≤ n && n ≤ 0x200F) || (0x2028 ≤ n && n ≤ 0x202F) || n == 0x205F ||
    (0x2061 ≤ n && n ≤ 0x206F) || (0x2FF0 ≤ n && n ≤ 0x2FFB) || n == 0x3000 ||
    (0xE000 ≤ n && n ≤ 0xF8FF) || (0xFDD0 ≤ n && n ≤ 0xFDEF) || (0xFFF9 ≤ n && n ≤ 0xFFFF) ||
    n % 65536 == 0xFFFE || n % 65536 == 0xFFFF || 0xE0000 ≤ n

/-- The character that stands for another in a domain name: full stops of other scripts, full-width
forms and capital letters. -/
def fold (c : Char) : Char :=
  let n := c.toNat
  if n = 0x3002 ∨ n = 0xFF0E ∨ n = 0xFF61 then '.'
  else if 0xFF01 ≤ n ∧ n ≤ 0xFF5E then (Char.ofNat (n - 0xFF01 + 0x21)).toLower
  else Text.lower c

/-- The pieces between full stops. -/
def labels (cs : List Char) : List (List Char) :=
  cs.foldr (fun c acc =>
    if c = '.' then [] :: acc
    else
      match acc with
      | label :: rest => (c :: label) :: rest
      | [] => [[c]]) [[]]

/-- What stands in front of a label in Punycode. -/
def punycodeMark : List Char := ['x', 'n', '-', '-']

/-- A label beyond ASCII whose form would be itself again. -/
def isSound (label : List Char) : Bool :=
  label.any (fun c => 128 ≤ c.toNat) && label.all fun c =>
    !isForbidden c && !isDisallowed c && !isIgnored c && fold c == c

/-- The ASCII form of a label that was folded. -/
def label? (label : List Char) : Option (List Char) :=
  if punycodeMark.isPrefixOf label = true then
    match Punycode.decode? (label.drop 4) with
    | some decoded =>
      if isSound decoded = true ∧ Punycode.encode decoded = label.drop 4 then some label else none
    | none => none
  else if label.all (fun c => c.toNat < 128) = true then some label
  else if isSound label = true then some (punycodeMark ++ Punycode.encode label)
  else none

/-- The ASCII form of a domain name. -/
def ofDomain? (cs : List Char) : Option (List Char) := do
  let text ← Utf8.decode? (Percent.decode cs)
  let folded := (text.toList.filter (!isIgnored ·)).map fold
  let parts ← (labels folded).mapM label?
  let name := ['.'].intercalate parts
  if name.any isForbidden = true then none else some name

/-! ## Numbers -/

/-- A number of a version 4 address: `none` if it is none, `some none` if it is too large. -/
def number? (cs : List Char) : Option (Option Nat) :=
  let read (base : Nat) (isDigit : Char → Bool) (ds : List Char) : Option (Option Nat) :=
    if ds = [] then some (some 0)
    else if ds.all isDigit = true then
      let n := ds.foldl (fun n c => base * n + (Bytes.hexValue? c).getD 0) 0
      some (if n < Nat.pow 2 32 then some n else none)
    else none
  match cs with
  | [] => none
  | '0' :: 'x' :: ds => read 16 (fun c => (Bytes.hexValue? c).isSome) ds
  | '0' :: 'X' :: ds => read 16 (fun c => (Bytes.hexValue? c).isSome) ds
  | ['0'] => some (some 0)
  | '0' :: ds => read 8 (fun c => '0' ≤ c && c ≤ '7') ds
  | ds => read 10 Decimal.isDigit ds

/-- The labels of a name without an empty one at the end. -/
def withoutTrailing (parts : List (List Char)) : List (List Char) :=
  if parts.getLast? = some [] then parts.dropLast else parts

/-- A name whose last label is a number is an address. -/
def endsInNumber (name : List Char) : Bool :=
  match (withoutTrailing (labels name)).getLast? with
  | some last => (last ≠ [] && last.all Decimal.isDigit) || (number? last).isSome
  | none => false

/-- The address that a name of numbers spells. -/
def ofNumbers? (name : List Char) : Option Nat := do
  let parts := withoutTrailing (labels name)
  if 4 < parts.length then none
  let numbers ← parts.mapM fun p => (number? p).join
  let last ← numbers.getLast?
  let front := numbers.dropLast
  if Nat.pow 256 (4 - front.length) ≤ last ∨ front.any (255 < ·) = true then none
  return front.zipIdx.foldl (fun n (part, i) => n + part * Nat.pow 256 (3 - i)) last

/-! ## Any host -/

/-- The host that a text spells. -/
def parse? (cs : List Char) : Option Host :=
  match cs with
  | '[' :: rest =>
    if rest.getLast? = some ']' then
      match IpAddress.v6? rest.dropLast with
      | some (groups, []) => some (.v6 groups)
      | _ => none
    else none
  | _ =>
    match ofDomain? cs with
    | none => none
    | some [] => none
    | some name =>
      if endsInNumber name = true then (ofNumbers? name).map .v4
      else some (.domain (String.ofList name))

/-- A host outside of the schemes that name hosts: no escape is decoded. -/
def isOpaque (cs : List Char) : Bool :=
  match cs with
  | '[' :: rest =>
    match rest.getLast?, IpAddress.v6? rest.dropLast with
    | some ']', some (_, []) => true
    | _, _ => false
  | _ => cs.all fun c => c.toNat ≠ 0 && !" #/:<>?@[\\]^|".toList.contains c

/-- A host as it stands in a URL. -/
def text : Host → String
  | .domain name => name
  | .v4 n => (IpAddress.v4 (n / Nat.pow 256 3) (n / Nat.pow 256 2 % 256) (n / 256 % 256) (n % 256)).text
  | .v6 groups => "[" ++ IpAddress.v6Text groups ++ "]"

/-- A host outside of a URL: without brackets. -/
def name : Host → String
  | .v6 groups => IpAddress.v6Text groups
  | host => host.text

end Host
end PollTunnel
