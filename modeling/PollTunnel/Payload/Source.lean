import PollTunnel.Payload

/-!
# Bounded reads

A `Source` is what a byte source still has in store: pieces of data, failures, waits in which
nothing arrives, and after the last of them the end of the stream.  `Source.read` takes at most
`bufferSize` bytes; what a piece holds beyond that stays for the next read.
-/

set_option autoImplicit false

namespace PollTunnel

/-- The most bytes that one payload takes from a source. -/
def bufferSize : Nat := 100 * 1024

/-- Something that a byte source has in store. -/
inductive Source.Event where
  /-- A piece of data; an empty one reads as the end of the stream, once. -/
  | data (bytes : Bytes)
  /-- A failed read. -/
  | failure (kind : IoError.Kind)
  /-- A whole wait in which nothing arrives. -/
  | silence
  deriving DecidableEq, Repr

/-- The events of a byte source, in order. -/
abbrev Source := List Source.Event

/-- What a bounded read brought. -/
inductive Source.Outcome where
  /-- Between one byte and `bufferSize` bytes. -/
  | data (bytes : Bytes)
  /-- Nothing within the wait. -/
  | timedOut
  deriving DecidableEq, Repr

namespace Source

/-- Failures that mean no more than that nothing has arrived yet. -/
def isTimeout : IoError.Kind → Bool
  | .timedOut => true
  | .wouldBlock => true
  | _ => false

/-- One bounded read: its outcome, and what the source has in store after it. -/
def read : Source → Except Payload.Error Outcome × Source
  | [] => (.error .targetClosed, [])
  | .silence :: rest => (.ok .timedOut, rest)
  | .failure kind :: rest =>
    if isTimeout kind = true then (.ok .timedOut, rest)
    else (.error (.io (.plain kind)), rest)
  | .data bytes :: rest =>
    if bytes = [] then (.error .targetClosed, rest)
    else
      let left := bytes.drop bufferSize
      (.ok (.data (bytes.take bufferSize)), if left = [] then rest else .data left :: rest)

/-- Several reads in a row. -/
def readMany : Nat → Source → List (Except Payload.Error Outcome) × Source
  | 0, source => ([], source)
  | n + 1, source =>
    let (outcome, source) := source.read
    let (outcomes, source) := readMany n source
    (outcome :: outcomes, source)

end Source
end PollTunnel
