import PollTunnel.Toml.Outline
import PollTunnel.Toml.Scalar

/-!
# Reading configuration documents

`Toml.read?` reads a whole document: comments, sections, and keys with their values.  It says no
more of a document with a fault than that it has one.

Every reader takes the text that is left and returns what it read with the text after it.  Values
in brackets and braces nest less than eighty deep, and a dotted key has fewer than eighty parts.
-/

set_option autoImplicit false

namespace PollTunnel
namespace Toml
namespace Reader

/-- The depth of nesting that is refused. -/
def maxDepth : Nat := 80

/-! ## Blanks, comments and line ends -/

/-- White space within a line. -/
def isBlank (c : Char) : Bool := c == ' ' || c == '\t'

/-- The text after white space. -/
def skip (cs : List Char) : List Char := cs.dropWhile isBlank

/-- Characters that may stand in comments: no controls but the tab. -/
def isVisible (c : Char) : Bool := c == '\t' || (0x20 ≤ c.toNat && c.toNat != 0x7F)

/-- The text after a comment, if there is one. -/
def afterComment : List Char → List Char
  | '#' :: rest => rest.dropWhile isVisible
  | cs => cs

/-- The text after a line break. -/
def newline? : List Char → Option (List Char)
  | '\n' :: rest => some rest
  | '\r' :: '\n' :: rest => some rest
  | _ => none

/-- The text after the end of a line, with the white space and the comment before it. -/
def lineEnd? (cs : List Char) : Option (List Char) :=
  match afterComment (skip cs) with
  | [] => some []
  | rest => newline? rest

/-- The text after white space, comments and line breaks.  A comment has to end with its line. -/
def skipLines : Nat → List Char → List Char
  | 0, cs => cs
  | fuel + 1, cs =>
    match skip cs with
    | '#' :: rest =>
      match newline? (rest.dropWhile isVisible) with
      | some more => skipLines fuel more
      | none => '#' :: rest
    | rest =>
      match newline? rest with
      | some more => skipLines fuel more
      | none => rest

/-! ## Strings -/

/-- The character of so many hexadecimal digits, if it is one. -/
def codePoint? (count : Nat) (cs : List Char) : Option (Char × List Char) :=
  let ds := cs.take count
  let n := ds.foldl (fun n c => 16 * n + hexDigitValue c) 0
  if ds.length = count ∧ ds.all isHexDigit = true ∧
      (n < 0xD800 ∨ (0xE000 ≤ n ∧ n < 0x110000)) then
    some (Char.ofNat n, cs.drop count)
  else none

/-- The character of an escape, after its backslash. -/
def escape? : List Char → Option (Char × List Char)
  | 'b' :: rest => some (Char.ofNat 8, rest)
  | 't' :: rest => some ('\t', rest)
  | 'n' :: rest => some ('\n', rest)
  | 'f' :: rest => some (Char.ofNat 12, rest)
  | 'r' :: rest => some ('\r', rest)
  | '"' :: rest => some ('"', rest)
  | '\\' :: rest => some ('\\', rest)
  | 'u' :: rest => codePoint? 4 rest
  | 'U' :: rest => codePoint? 8 rest
  | _ => none

/-- The text up to a closing quote; `done` is what was read, in reverse. -/
def basic? : Nat → List Char → List Char → Option (String × List Char)
  | 0, _, _ => none
  | _, _, [] => none
  | fuel + 1, done, c :: rest =>
    if c = '"' then some (String.ofList done.reverse, rest)
    else if c = '\\' then
      match escape? rest with
      | some (e, more) => basic? fuel (e :: done) more
      | none => none
    else if isVisible c then basic? fuel (c :: done) rest
    else none

/-- The text up to a closing apostrophe. -/
def literal? (cs : List Char) : Option (String × List Char) :=
  let body := cs.takeWhile fun c => isVisible c && c != '\''
  match cs.dropWhile fun c => isVisible c && c != '\'' with
  | '\'' :: rest => some (String.ofList body, rest)
  | _ => none

/-- A run of quotes in a text of several lines: the quotes that belong to the text, and whether the
text ends with the other three. -/
def closing (count : Nat) : Option (Nat × Bool) :=
  if count < 3 then some (count, false)
  else if count < 6 then some (count - 3, true)
  else none

/-- The text after white space and line breaks. -/
def afterBreaks : Nat → List Char → List Char
  | 0, cs => cs
  | fuel + 1, cs =>
    match newline? (skip cs) with
    | some more => afterBreaks fuel more
    | none => skip cs

/-- The text of several lines up to three closing quotes. -/
def multiline? (escapes : Bool) (quote : Char) : Nat → List Char → List Char →
    Option (String × List Char)
  | 0, _, _ => none
  | _, _, [] => none
  | fuel + 1, done, c :: rest =>
    if c = quote then
      let count := 1 + (rest.takeWhile (· == quote)).length
      let after := rest.dropWhile (· == quote)
      if count < 3 then multiline? escapes quote fuel (List.replicate count quote ++ done) after
      else
        let kept := min (count - 3) 2
        some (String.ofList (done.reverse ++ List.replicate kept quote),
          (c :: rest).drop (kept + 3))
    else if c = '\\' ∧ escapes = true then
      match newline? (skip rest) with
      | some more => multiline? escapes quote fuel done (afterBreaks more.length more)
      | none =>
        match escape? rest with
        | some (e, more) => multiline? escapes quote fuel (e :: done) more
        | none => none
    else
      match newline? (c :: rest) with
      | some more => multiline? escapes quote fuel ('\n' :: done) more
      | none => if isVisible c then multiline? escapes quote fuel (c :: done) rest else none

/-- The text after a line break, if there is one. -/
def afterFirstBreak (cs : List Char) : List Char := (newline? cs).getD cs

/-- The text of any kind of quotes. -/
def string? : List Char → Option (String × List Char)
  | '"' :: '"' :: '"' :: rest => multiline? true '"' (rest.length + 1) [] (afterFirstBreak rest)
  | '"' :: rest => basic? (rest.length + 1) [] rest
  | '\'' :: '\'' :: '\'' :: rest =>
    multiline? false '\'' (rest.length + 1) [] (afterFirstBreak rest)
  | '\'' :: rest => literal? rest
  | _ => none

/-! ## Keys -/

/-- Characters of keys without quotes. -/
def isKeyChar (c : Char) : Bool := c.isAlphanum || c == '_' || c == '-'

/-- One part of a key. -/
def keyPart? (cs : List Char) : Option (String × List Char) :=
  match cs with
  | '"' :: rest => basic? (rest.length + 1) [] rest
  | '\'' :: rest => literal? rest
  | _ =>
    let name := cs.takeWhile isKeyChar
    if name = [] then none else some (String.ofList name, cs.dropWhile isKeyChar)

/-- The parts of a key, with dots between them and blanks around each. -/
def keyParts? : Nat → List Char → Option (List String × List Char)
  | 0, _ => none
  | fuel + 1, cs => do
    let (part, rest) ← keyPart? (skip cs)
    match skip rest with
    | '.' :: more =>
      let (parts, rest) ← keyParts? fuel more
      return (part :: parts, rest)
    | rest => return ([part], rest)

/-- A key. -/
def key? (cs : List Char) : Option (List String × List Char) :=
  match keyParts? (cs.length + 1) cs with
  | some (parts, rest) => if parts.length < maxDepth then some (parts, rest) else none
  | none => none

/-! ## Values -/

/-- Characters of a value without quotes at the front; a date takes the blank before a time in. -/
def scalarChars (cs : List Char) : List Char × List Char :=
  let front := cs.takeWhile isScalarChar
  let rest := cs.dropWhile isScalarChar
  match rest with
  | ' ' :: d :: more =>
    if Decimal.isDigit d && (date? front).any (·.2 == []) then
      (front ++ ' ' :: (d :: more).takeWhile isScalarChar, (d :: more).dropWhile isScalarChar)
    else (front, rest)
  | _ => (front, rest)

mutual

/-- A value with `depth` levels of nesting above it. -/
def value? : Nat → Nat → List Char → Option (Toml × List Char)
  | 0, _, _ => none
  | fuel + 1, depth, cs =>
    match cs with
    | '"' :: _ => (string? cs).map fun (s, rest) => (.string s, rest)
    | '\'' :: _ => (string? cs).map fun (s, rest) => (.string s, rest)
    | '[' :: rest =>
      if maxDepth ≤ depth + 1 then none
      else (items? fuel (depth + 1) [] rest).map fun (items, rest) => (.array items, rest)
    | '{' :: rest =>
      if maxDepth ≤ depth + 1 then none
      else
        match skip rest with
        | '}' :: more => some (.table [], more)
        | start =>
          (pairs? fuel (depth + 1) [] start).map fun (entries, rest) =>
            (.table (Outline.finishTable entries), rest)
    | _ =>
      let (front, rest) := scalarChars cs
      (scalar? front).map fun v => (v, rest)

/-- The items of an array up to its bracket; `done` are those before, in reverse. -/
def items? : Nat → Nat → List Toml → List Char → Option (List Toml × List Char)
  | 0, _, _, _ => none
  | fuel + 1, depth, done, cs =>
    match skipLines (cs.length + 1) cs with
    | ']' :: rest => some (done.reverse, rest)
    | start =>
      match value? fuel depth start with
      | none => none
      | some (item, rest) =>
        match skipLines (rest.length + 1) rest with
        | ',' :: more => items? fuel depth (item :: done) more
        | ']' :: more => some ((item :: done).reverse, more)
        | _ => none

/-- The entries of a table in braces up to its brace. -/
def pairs? : Nat → Nat → Outline.Entries → List Char → Option (Outline.Entries × List Char)
  | 0, _, _, _ => none
  | fuel + 1, depth, entries, cs =>
    match key? cs with
    | some (keys, '=' :: rest) =>
      match value? fuel depth (skip rest) with
      | none => none
      | some (v, rest) =>
        match Outline.addDotted keys v entries with
        | none => none
        | some entries =>
          match skip rest with
          | ',' :: more => pairs? fuel depth entries more
          | '}' :: more => some (entries, more)
          | _ => none
    | _ => none

end

/-! ## Documents -/

/-- What was read of a document: its tables, and the header of the section that is being read. -/
structure State where
  entries : Outline.Entries := []
  section_ : List String := []

/-- Add a key with its value to the current section. -/
def State.assign (s : State) (keys : List String) (v : Toml) : Option State := do
  let entries ← Outline.belowHeader (Outline.addDotted keys v) s.entries s.section_
  return { s with entries }

/-- Begin a section, given what its header does to the table above. -/
def State.begin (s : State) (keys : List String)
    (enter : String → Outline.Entries → Option Outline.Entries) : Option State := do
  let key ← keys.getLast?
  let entries ← Outline.belowHeader (enter key) s.entries keys.dropLast
  return { entries, section_ := keys }

/-- Read lines until the document ends. -/
def lines? : Nat → State → List Char → Option State
  | 0, _, _ => none
  | fuel + 1, s, cs =>
    match skip cs with
    | [] => some s
    | '#' :: rest => do lines? fuel s (← lineEnd? ('#' :: rest))
    | '\n' :: rest => lines? fuel s rest
    | '\r' :: rest => do lines? fuel s (← newline? ('\r' :: rest))
    | '[' :: '[' :: rest =>
      match key? rest with
      | some (keys, ']' :: ']' :: more) => do
        lines? fuel (← s.begin keys Outline.openElement) (← lineEnd? more)
      | _ => none
    | '[' :: rest =>
      match key? rest with
      | some (keys, ']' :: more) => do
        lines? fuel (← s.begin keys Outline.openTable) (← lineEnd? more)
      | _ => none
    | start =>
      match key? start with
      | some (keys, '=' :: rest) => do
        let (v, more) ← value? (rest.length + 2) 0 (skip rest)
        lines? fuel (← s.assign keys v) (← lineEnd? more)
      | _ => none

/-- The text after a byte order mark. -/
def afterMark : List Char → List Char
  | c :: rest => if c.toNat = 0xFEFF then rest else c :: rest
  | [] => []

end Reader

/-- The table that a document describes. -/
def read? (text : String) : Option Table :=
  let cs := Reader.afterMark text.toList
  (Reader.lines? (cs.length + 1) {} cs).map fun s => Outline.finishTable s.entries

end Toml
end PollTunnel
