import PollTunnel.Http.Wire

/-!
# Connections that bring requests

A `Connection` keeps the bytes that have come on it, and the request that is being answered.  There
is one such request at a time; bytes that come meanwhile wait until it is answered.

* `Connection.take` — bytes come.
* `Connection.next` — what the bytes at hand come to, if no request is under way.
* `Connection.answered` — the request under way was answered, and more may follow it.
-/

set_option autoImplicit false

namespace PollTunnel

/-- The server's end of a connection. -/
structure Connection where
  /-- The bytes that no request was made of. -/
  buffer : Bytes := []
  /-- The buffer has not been looked at since it changed. -/
  unread : Bool := false
  /-- More bytes were asked for, and have not come yet. -/
  receiving : Bool := false
  /-- The number of the request under way, and whether more may follow it. -/
  busy : Option (Nat × Bool) := none
  deriving DecidableEq, Repr, Inhabited

namespace Connection

/-- What there is to do on a connection. -/
inductive Need where
  /-- Look at the buffer. -/
  | look
  /-- Ask for more bytes. -/
  | bytes
  deriving DecidableEq, Repr

/-- The first thing to do on a connection.  Bytes are asked for during a request as well, because
that is how it shows that the other end has gone away. -/
def need? (c : Connection) : Option Need :=
  if c.busy.isNone && c.unread then some .look
  else if c.receiving || c.unread then none
  else some .bytes

/-- More bytes are asked for. -/
def ask (c : Connection) : Connection := { c with receiving := true }

/-- Bytes come. -/
def take (c : Connection) (bytes : Bytes) : Connection :=
  { c with buffer := c.buffer ++ bytes, unread := true, receiving := false }

/-- Look at the buffer for a request, which gets a number; a body above the limit is cut off. -/
def next (c : Connection) (limit number : Nat) : Wire.Progress Request × Connection :=
  match Wire.readRequest limit c.buffer with
  | .more => (.more, { c with unread := false })
  | .malformed => (.malformed, { c with unread := false })
  | .done incoming rest =>
    (.done incoming.request rest,
      { c with buffer := rest, unread := rest ≠ [], busy := some (number, incoming.keepAlive) })

/-- The request under way was answered. -/
def answered (c : Connection) : Connection := { c with busy := none }

/-- Nothing has come since the last answer. -/
def isIdle (c : Connection) : Bool := c.busy.isNone && c.buffer.isEmpty

/-- The request of this number is under way. -/
def answers (c : Connection) (number : Nat) : Bool := c.busy.any (·.1 = number)

/-- More requests may follow the one under way. -/
def mayContinue (c : Connection) : Bool := c.busy.any (·.2)

end Connection
end PollTunnel
