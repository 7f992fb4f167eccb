/-!
# Accepting a limited number of connections

An accept call first takes a slot and then waits for a socket; the slot goes to the connection's
permit, and comes back when the permit is dropped or the call gives up.  Calls that find no free
slot wait in line, and a slot that comes back goes to the first of them.

`Slots.step` says what each event does to the slots.  Calls are numbered by whoever makes them, and
a permit has the number of the call that brought it.
-/

set_option autoImplicit false

namespace PollTunnel

/-- The slots of a listener and the calls and permits that hold them. -/
structure Slots where
  /-- The slots that nobody holds. -/
  available : Nat
  /-- Accept calls in line for a slot. -/
  waiting : List Nat := []
  /-- Accept calls that hold a slot and wait for a socket. -/
  holding : List Nat := []
  /-- Permits that were handed out. -/
  live : List Nat := []
  deriving DecidableEq, Repr, Inhabited

/-- Something that happens to a listener. -/
inductive Slots.Event where
  /-- An accept call begins. -/
  | begin (call : Nat)
  /-- A socket arrives for a call that holds a slot. -/
  | accept (call : Nat)
  /-- A call that holds a slot fails to get a socket. -/
  | fail (call : Nat)
  /-- A call is given up, in line or with a slot. -/
  | cancel (call : Nat)
  /-- A permit is dropped. -/
  | release (call : Nat)
  deriving DecidableEq, Repr

namespace Slots

/-- The slots of a listener that allows `limit` connections. -/
def ofLimit (limit : Nat) : Slots := { available := limit }

/-- A slot comes back: the first call in line gets it. -/
def giveBack (s : Slots) : Slots :=
  match s.waiting with
  | [] => { s with available := s.available + 1 }
  | call :: rest => { s with waiting := rest, holding := s.holding ++ [call] }

/-- What an event does.  An event that names no call or permit in the right place does nothing. -/
def step (s : Slots) : Event → Slots
  | .begin call =>
    match s.available with
    | 0 => { s with waiting := s.waiting ++ [call] }
    | n + 1 => { s with available := n, holding := s.holding ++ [call] }
  | .accept call =>
    if call ∈ s.holding then
      { s with holding := s.holding.erase call, live := s.live ++ [call] }
    else s
  | .fail call =>
    if call ∈ s.holding then giveBack { s with holding := s.holding.erase call } else s
  | .cancel call =>
    if call ∈ s.holding then giveBack { s with holding := s.holding.erase call }
    else { s with waiting := s.waiting.erase call }
  | .release call =>
    if call ∈ s.live then giveBack { s with live := s.live.erase call } else s

/-- The slots after a run of events. -/
def run (s : Slots) (events : List Event) : Slots := events.foldl step s

/-- Every slot, wherever it is. -/
def total (s : Slots) : Nat := s.available + s.holding.length + s.live.length

theorem total_giveBack (s : Slots) : s.giveBack.total = s.total + 1 := by
  unfold giveBack total
  split <;> simp only [List.length_append, List.length_cons, List.length_nil] <;> omega

end Slots
end PollTunnel
