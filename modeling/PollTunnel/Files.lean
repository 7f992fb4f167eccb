import PollTunnel.IoError
import PollTunnel.Text.Utf8

/-!
# Files

`Files` tells what stands at each path, or why that cannot be told.  A path is any octets.

* `Files.readAt`, `Files.read` — the contents of a file, or the operating system's error.
* `Files.contains` — something stands at a path.

`FileTree` lists the files and directories below a working directory.  A path is walked part by
part; what is outside of the tree is missing.
-/

set_option autoImplicit false

namespace PollTunnel

/-- What stands at a name: a file with its contents, or a directory. -/
inductive Files.Node where
  | file (contents : Bytes)
  | directory
  deriving DecidableEq, Repr

/-- A file system at one moment: what stands at a path, or the operating system's error. -/
structure Files where
  lookup : Bytes → Except IoError Files.Node

namespace Files

/-- The contents of the file at a path. -/
def readAt (files : Files) (path : Bytes) : Except IoError Bytes :=
  match files.lookup path with
  | .error e => .error e
  | .ok .directory => .error .directory
  | .ok (.file contents) => .ok contents

/-- The contents of the file at a path that is a text. -/
def read (files : Files) (path : String) : Except IoError Bytes :=
  files.readAt (Bytes.ofString path)

/-- Something stands at a path that is a text. -/
def contains (files : Files) (path : String) : Bool := (files.lookup (Bytes.ofString path)).isOk

end Files

/-- The names below a working directory, each with the parts of its path. -/
structure FileTree where
  entries : List (List String × Files.Node) := []
  deriving Repr, Inhabited

namespace FileTree

open Files (Node)

/-- The parts of a path that count. -/
def parts (path : String) : List String :=
  ((path.splitOn "/").filter fun part => part ≠ "" ∧ part ≠ ".")

/-- The tree with these names and contents. -/
def ofList (entries : List (String × Node)) : FileTree :=
  ⟨entries.map fun (name, node) => (parts name, node)⟩

/-- What stands at a list of parts; a name below it makes it a directory. -/
def find? (tree : FileTree) (at_ : List String) : Option Node :=
  if at_ = [] then some .directory
  else
    match tree.entries.find? (·.1 = at_) with
    | some (_, node) => some node
    | none => if tree.entries.any (fun e => at_.isPrefixOf e.1) = true then some .directory else none

/-- The longest name of one part. -/
def maxName : Nat := 255

/-- The longest path. -/
def maxPath : Nat := 4095

/-- Where a walk stands: at parts below the working directory, or somewhere outside of the tree. -/
inductive Place where
  | inside (parts : List String)
  | outside

/-- Walk down parts from a directory. -/
def walk (tree : FileTree) : Place → List String → Except IoError Place
  | place, [] => .ok place
  | place, part :: rest =>
    if maxName < part.utf8ByteSize then .error .nameTooLong
    else
      match place, part with
      | .outside, ".." => walk tree .outside rest
      | .outside, _ => .error .missing
      | .inside [], ".." => walk tree .outside rest
      | .inside here, _ =>
        match tree.find? here with
        | some .directory =>
          if part = ".." then walk tree (.inside here.dropLast) rest
          else if (tree.find? (here ++ [part])).isSome then
            walk tree (.inside (here ++ [part])) rest
          else .error .missing
        | _ => .error .notDirectory

/-- What stands at a path. -/
def lookup (tree : FileTree) (path : String) : Except IoError Node :=
  if path.toList.contains (Char.ofNat 0) then
    .error (.worded .invalidInput "file name contained an unexpected NUL byte")
  else if path = "" then .error .missing
  else if maxPath < path.utf8ByteSize then .error .nameTooLong
  else
    let start := if path.toList.head? = some '/' then Place.outside else Place.inside []
    let wantsDirectory := path.toList.getLast? = some '/' ∨
      (path.splitOn "/").getLast? = some "."
    match walk tree start (parts path) with
    | .error e => .error e
    | .ok .outside => .ok .directory
    | .ok (.inside here) =>
      match tree.find? here with
      | none => .error .missing
      | some .directory => .ok .directory
      | some node => if wantsDirectory then .error .notDirectory else .ok node

/-- The tree as a file system.  All names in it are texts, so nothing stands at another path. -/
def files (tree : FileTree) : Files where
  lookup path :=
    match Utf8.decode? path with
    | some text => tree.lookup text
    | none => .error .missing

end FileTree
end PollTunnel
