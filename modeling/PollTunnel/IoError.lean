/-!
# Input and output errors

An `IoError` is one of the kinds of failure that a device reports, a kind with words of its own,
or a failure of the operating system with its number.

* `IoError.text` — how it is shown to a user.
* `IoError.detail` — its full form, for a program that ends with it.
-/

set_option autoImplicit false

namespace PollTunnel

/-- The kinds of failure. -/
inductive IoError.Kind where
  | timedOut
  | wouldBlock
  | connectionReset
  | connectionRefused
  | connectionAborted
  | brokenPipe
  | interrupted
  | unexpectedEof
  | permissionDenied
  | notFound
  | invalidData
  | invalidInput
  | writeZero
  | notADirectory
  | isADirectory
  | addressInUse
  | addressNotAvailable
  | networkUnreachable
  | invalidFilename
  | uncategorized
  | other
  deriving DecidableEq, Repr, Inhabited

/-- A failed operation on a device, a socket or a file. -/
inductive IoError where
  /-- A failure of which only the kind is known. -/
  | plain (kind : IoError.Kind)
  /-- A failure with words of its own. -/
  | worded (kind : IoError.Kind) (words : String)
  /-- A failure that the operating system numbers. -/
  | system (kind : IoError.Kind) (code : Nat) (words : String)
  deriving DecidableEq, Repr, Inhabited

namespace IoError

/-- The words for a kind. -/
def Kind.text : Kind → String
  | .timedOut => "timed out"
  | .wouldBlock => "operation would block"
  | .connectionReset => "connection reset"
  | .connectionRefused => "connection refused"
  | .connectionAborted => "connection aborted"
  | .brokenPipe => "broken pipe"
  | .interrupted => "operation interrupted"
  | .unexpectedEof => "unexpected end of file"
  | .permissionDenied => "permission denied"
  | .notFound => "entity not found"
  | .invalidData => "invalid data"
  | .invalidInput => "invalid input parameter"
  | .writeZero => "write zero"
  | .notADirectory => "not a directory"
  | .isADirectory => "is a directory"
  | .addressInUse => "address in use"
  | .addressNotAvailable => "address not available"
  | .networkUnreachable => "network unreachable"
  | .invalidFilename => "invalid filename"
  | .uncategorized => "uncategorized error"
  | .other => "other error"

/-- The name of a kind. -/
def Kind.name : Kind → String
  | .timedOut => "TimedOut"
  | .wouldBlock => "WouldBlock"
  | .connectionReset => "ConnectionReset"
  | .connectionRefused => "ConnectionRefused"
  | .connectionAborted => "ConnectionAborted"
  | .brokenPipe => "BrokenPipe"
  | .interrupted => "Interrupted"
  | .unexpectedEof => "UnexpectedEof"
  | .permissionDenied => "PermissionDenied"
  | .notFound => "NotFound"
  | .invalidData => "InvalidData"
  | .invalidInput => "InvalidInput"
  | .writeZero => "WriteZero"
  | .notADirectory => "NotADirectory"
  | .isADirectory => "IsADirectory"
  | .addressInUse => "AddrInUse"
  | .addressNotAvailable => "AddrNotAvailable"
  | .networkUnreachable => "NetworkUnreachable"
  | .invalidFilename => "InvalidFilename"
  | .uncategorized => "Uncategorized"
  | .other => "Other"

/-- The kind of a failure. -/
def kind : IoError → Kind
  | .plain k => k
  | .worded k _ => k
  | .system k _ _ => k

/-- How a failure is shown. -/
def text : IoError → String
  | .plain k => k.text
  | .worded _ words => words
  | .system _ code words => words ++ " (os error " ++ toString code ++ ")"

/-- The full form of a failure. -/
def detail : IoError → String
  | .plain k => "Kind(" ++ k.name ++ ")"
  | .worded k words => "Error \x7b kind: " ++ k.name ++ ", message: \"" ++ words ++ "\" \x7d"
  | .system k code words =>
    "Os \x7b code: " ++ toString code ++ ", kind: " ++ k.name ++ ", message: \"" ++ words ++
      "\" \x7d"

/-! ## Failures of the operating system -/

def missing : IoError := .system .notFound 2 "No such file or directory"

def denied : IoError := .system .permissionDenied 13 "Permission denied"

def notDirectory : IoError := .system .notADirectory 20 "Not a directory"

def directory : IoError := .system .isADirectory 21 "Is a directory"

def nameTooLong : IoError := .system .invalidFilename 36 "File name too long"

def inUse : IoError := .system .addressInUse 98 "Address already in use"

def notAvailable : IoError := .system .addressNotAvailable 99 "Cannot assign requested address"

def unreachable : IoError := .system .networkUnreachable 101 "Network is unreachable"

def refused : IoError := .system .connectionRefused 111 "Connection refused"

def reset : IoError := .system .connectionReset 104 "Connection reset by peer"

def broken : IoError := .system .brokenPipe 32 "Broken pipe"

/-- The failures that are known by their numbers. -/
def numbered : List (Nat × IoError) :=
  [(2, missing), (13, denied), (20, notDirectory), (21, directory), (32, broken),
    (36, nameTooLong), (98, inUse), (99, notAvailable), (101, unreachable), (104, reset),
    (111, refused)]

/-- The failure with a number, or one with these words if the number is not known. -/
def ofCode (code : Nat) (words : String) : IoError :=
  (numbered.lookup code).getD (.system .uncategorized code words)

end IoError
end PollTunnel
