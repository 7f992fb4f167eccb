import PollTunnel.Payload.Sink

/-!
# Links

A `Link` stands for a socket as somebody sees it who writes to it: it takes everything until the
socket is known to have failed.  What it took is sent on from the outlet that it belongs to
(`Outlet.drain`).
-/

set_option autoImplicit false

namespace PollTunnel

/-- The writing side of a socket. -/
structure Link where
  /-- How the socket failed, once it has. -/
  failure : Option IoError := none
  deriving DecidableEq, Repr, Inhabited

namespace Link

/-- The result of a call. -/
def outcome {α : Type} (l : Link) (value : α) : Except IoError α :=
  match l.failure with
  | some e => .error e
  | none => .ok value

instance : Sink Link where
  accept l bytes := (l.outcome bytes.length, l)
  flush l := (l.outcome (), l)
  shutdown l := (l.outcome (), l)

end Link
end PollTunnel
