import PollTunnel.Text.Quoted
import PollTunnel.Text.Utf8

/-!
# Locations of configuration documents

A location is a path with `/` between its parts, and any octets in them.  Empty parts and a `.`
after the first part do not count; the last part that counts is the file name, unless it is `..`, a
leading `.` or the root.

* `Location.parent`, `Location.fileName?` — a location's directory and file name.
* `Location.stem`, `Location.extension?` — a file name's two sides of its last dot.
* `Location.overlay` — the location of a profile's document: `dir/tunnel.toml` and the profile
  `dev` give `dir/tunnel-dev.toml`.

The file name of an overlay is put together as a text (`Location.readable`), so what is not UTF-8 in
the name of the base document is not taken over.
-/

set_option autoImplicit false

namespace PollTunnel

/-- Where a document lies: a path, as the octets that the operating system takes. -/
abbrev Location := Bytes

namespace Location

/-- The octet between the parts of a path. -/
def slash : UInt8 := 0x2F

/-- The octet between a stem and an extension. -/
def dot : UInt8 := 0x2E

/-- A path written backwards without the parts at its end that do not count.  A lone `.` and the
root stay. -/
def stripReversed : Bytes → Bytes
  | 0x2F :: c :: rest => stripReversed (c :: rest)
  | 0x2E :: 0x2F :: rest => stripReversed (0x2F :: rest)
  | path => path

/-- A path without the parts at its end that do not count. -/
def strip (path : Location) : Location := (stripReversed path.reverse).reverse

/-- The last part of a path. -/
def lastPart (path : Location) : Bytes := (path.reverse.takeWhile (· != slash)).reverse

/-- A path without its last part. -/
def beforeLastPart (path : Location) : Location := (path.reverse.dropWhile (· != slash)).reverse

/-- The file name of a location. -/
def fileName? (path : Location) : Option Bytes :=
  let part := lastPart (strip path)
  if part = [] ∨ part = [dot] ∨ part = [dot, dot] then none else some part

/-- The directory of a location that has a file name. -/
def parent (path : Location) : Location := strip (beforeLastPart (strip path))

/-- The two sides of a file name's last dot; a dot at the front alone does not split. -/
def splitName (name : Bytes) : Bytes × Option Bytes :=
  let back := name.reverse
  let before := ((back.dropWhile (· != dot)).drop 1).reverse
  if name = [dot, dot] ∨ before = [] then (name, none)
  else (before, some (back.takeWhile (· != dot)).reverse)

/-- The file name of a location without its extension; empty if there is no file name. -/
def stem (path : Location) : Bytes := ((fileName? path).map fun n => (splitName n).1).getD []

/-- The extension of a location's file name. -/
def extension? (path : Location) : Option Bytes := (fileName? path).bind fun n => (splitName n).2

/-- A name in a directory. -/
def join (directory : Location) (name : Bytes) : Location :=
  if directory = [] ∨ directory.getLast? = some slash then directory ++ name
  else directory ++ slash :: name

/-- Octets as they stand in a text: what is not UTF-8 is replaced. -/
def readable (octets : Bytes) : Bytes := Bytes.ofString (Utf8.decodeLossy octets)

/-- What an extension adds to a stem. -/
def suffix : Option Bytes → Bytes
  | some extension => dot :: extension
  | none => []

/-- The file name of a profile's document. -/
def overlayName (base : Location) (profile : String) : Bytes :=
  readable (stem base) ++ Bytes.ofString ("-" ++ profile) ++
    suffix ((extension? base).map readable)

/-- The location of a profile's document, beside the base document. -/
def overlay (base : Location) (profile : String) : Location :=
  join (if (fileName? base).isSome then parent base else base) (overlayName base profile)

/-- How a location is shown. -/
def text (location : Location) : String := Utf8.decodeLossy location

/-- An octet that is no part of a text, in quotes. -/
def quotedOctet (b : UInt8) : List Char := "\\x".toList ++ (Bytes.hexPair b).map Char.toUpper

/-- Octets in quotes: the characters that they stand for, and what is not UTF-8 in hexadecimal. -/
def quotedOctets : Bytes → List Char
  | [] => []
  | lead :: rest =>
    let front := match Utf8.next lead rest with
      | .scalar value _ => Text.quotedChar value
      | .broken tail =>
        ((lead :: rest).take ((lead :: rest).length - tail.length)).flatMap quotedOctet
    front ++ quotedOctets (Utf8.next lead rest).rest
termination_by octets => octets.length
decreasing_by
  have hshorter := Utf8.length_rest_next lead rest
  simp only [List.length_cons]
  omega

/-- A location in quotes. -/
def quoted (location : Location) : String := String.ofList ('"' :: quotedOctets location ++ ['"'])

example : overlay (Bytes.ofString "dir/tunnel.toml") "dev" =
    Bytes.ofString "dir/tunnel-dev.toml" := by
  decide +kernel

example : overlay (Bytes.ofString "foo/..") "dev" = Bytes.ofString "foo/../-dev" := by
  decide +kernel

end Location
end PollTunnel
