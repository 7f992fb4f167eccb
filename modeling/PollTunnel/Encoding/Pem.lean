import PollTunnel.Encoding.Base64
import PollTunnel.Text.Blank
import PollTunnel.Text.Utf8

/-!
# Keys in armour

A file may hold a binary key as text between two lines that name what it is.

* `Pem.read?` — the first block of a file: its name and its bytes.

Text before the block is passed over.  Lines before an empty one are notes, each a name and a value
divided by a colon; they are checked and dropped.
-/

set_option autoImplicit false

namespace PollTunnel

/-- A named block of bytes. -/
structure Pem where
  /-- What the block says it holds. -/
  label : String
  contents : Bytes
  deriving DecidableEq

namespace Pem

/-- Look for the octets of a mark that are still to come, having passed over `seen` in reverse.  An
octet that does not fit starts the mark anew with the octet behind it. -/
def seek? (mark : Bytes) : Bytes → Bytes → Bytes → Option (Bytes × Bytes)
  | seen, [], rest => some ((seen.drop mark.length).reverse, rest)
  | _, _ :: _, [] => none
  | seen, m :: more, b :: rest => seek? mark (b :: seen) (if b = m then more else mark) rest

/-- What stands before a mark, and what stands behind it. -/
def splitAt? (mark bytes : Bytes) : Option (Bytes × Bytes) := seek? mark [] mark bytes

/-- A space, a tab or the end of a line. -/
def isGap (b : UInt8) : Bool := b == 32 || b == 9 || b == 10 || b == 13

/-- The lines of a text, without what ends them. -/
def lines (text : String) : List String :=
  let rows := text.toList.splitOn '\n'
  let rows := if rows.getLast? = some [] then rows.dropLast else rows
  rows.map fun row =>
    String.ofList (if row.getLast? = some '\r' then row.dropLast else row)

/-- The notes before the first empty line, and what follows it. -/
def splitNotes (body : Bytes) : Bytes × Bytes :=
  match splitAt? (Bytes.ofString "\n\n") body with
  | some parts => parts
  | none => (splitAt? (Bytes.ofString "\r\n\r\n") body).getD ([], body)

/-- The symbols of a text, without the white space at the end of its lines. -/
def symbols (text : String) : Bytes :=
  (lines text).flatMap fun row =>
    Bytes.ofString (String.ofList (row.toList.reverse.dropWhile Text.isBlank).reverse)

/-- The first block of a file. -/
def read? (file : Bytes) : Option Pem := do
  let (_, rest) ← splitAt? (Bytes.ofString "-----BEGIN ") file
  let (label, rest) ← splitAt? (Bytes.ofString "-----") rest
  let (body, rest) ← splitAt? (Bytes.ofString "-----END ") (rest.dropWhile isGap)
  let (closing, _) ← splitAt? (Bytes.ofString "-----") rest
  let (notes, data) := splitNotes body
  let label ← Utf8.decode? label
  let closing ← Utf8.decode? closing
  guard (label ≠ "" ∧ label = closing)
  let data ← Utf8.decode? data
  let contents ← (Base64.decode .standard .complete (symbols data)).toOption
  let notes ← Utf8.decode? notes
  guard ((lines notes).all fun note => note.toList.contains ':')
  return ⟨label, contents⟩

end Pem
end PollTunnel
