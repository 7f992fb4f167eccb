/-!
# Counting live connections

Connections are numbered in the order in which they are made, over all trackers together, and each
tracker counts those of its own that are live.  A `Guard` stands for one live connection; whoever
holds it releases it once.

* `Connections.track` makes a connection and `Connections.release` ends it.
* `awaitIdle` waits for a tracker to become idle, looking at its count every twenty milliseconds.
-/

set_option autoImplicit false

namespace PollTunnel

/-- The number of a connection. -/
structure ConnectionId where
  number : Nat
  deriving DecidableEq, Repr, Inhabited

/-- How a connection is named in logs. -/
def ConnectionId.text (id : ConnectionId) : String := "conn-" ++ toString id.number

/-- A live connection and the tracker that counts it. -/
structure Guard where
  id : ConnectionId
  tracker : Nat
  deriving DecidableEq, Repr, Inhabited

/-- The numbering and the counts of all trackers. -/
structure Connections where
  /-- The number of the next connection. -/
  nextId : Nat := 1
  /-- How many connections of each tracker are live. -/
  active : Nat → Nat := fun _ => 0

namespace Connections

/-- Make a connection. -/
def track (c : Connections) (tracker : Nat) : Guard × Connections :=
  (⟨⟨c.nextId⟩, tracker⟩,
    { nextId := c.nextId + 1
      active := fun t => if t = tracker then c.active t + 1 else c.active t })

/-- End a connection. -/
def release (c : Connections) (guard : Guard) : Connections :=
  { c with active := fun t => if t = guard.tracker then c.active t - 1 else c.active t }

theorem active_track (c : Connections) (tracker t : Nat) :
    (c.track tracker).2.active t = if t = tracker then c.active t + 1 else c.active t := rfl

theorem active_release (c : Connections) (guard : Guard) (t : Nat) :
    (c.release guard).active t = if t = guard.tracker then c.active t - 1 else c.active t := rfl

end Connections

/-- The milliseconds between two looks at a tracker that is not idle yet. -/
def pollInterval : Nat := 20

/-- Whether a wait of this many milliseconds sees a tracker idle, whose count at each moment is
given.  The last look is the first one at or after the end of the wait. -/
def awaitIdle (timeout : Nat) (activeAt : Nat → Nat) : Bool :=
  (List.range ((timeout + pollInterval - 1) / pollInterval + 1)).any fun k =>
    activeAt (pollInterval * k) == 0

theorem awaitIdle_of_idle (timeout : Nat) (activeAt : Nat → Nat) (h : activeAt 0 = 0) :
    awaitIdle timeout activeAt = true := by
  rw [awaitIdle, List.any_eq_true]
  exact ⟨0, by simp, by simp [h]⟩

end PollTunnel
