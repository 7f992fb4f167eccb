import PollTunnel.Tunnel.Answer

/-!
# Requests that wait

A session keeps the requests that wait for target data in the order of their arrival, and never
more than two of them.  Every operation says which requests it takes out and what it answers them.

* `Waiting.join` — a new request; of two that wait already the older one is displaced.
* `Waiting.handOver` — a payload for the oldest requester who is still there.
* `Waiting.sweep` — requests that have waited for long enough get an empty answer.
* `Waiting.release` — all requests are told that the session is over.

No operation loses a request: those taken out and those left are those there were
(`handOver_conserves`, `sweep_conserves`).
-/

set_option autoImplicit false

namespace PollTunnel
namespace Tunnel

/-- A request that waits for its answer. -/
structure Waiter where
  /-- Who asked. -/
  number : Nat
  /-- When it arrived, in nanoseconds. -/
  since : Nat
  /-- The requester is still there to take the answer. -/
  present : Bool := true
  deriving DecidableEq, Repr

/-- A request that was taken out, with its answer.  Nobody sees the answer to a requester who has
gone away. -/
structure Reply where
  waiter : Waiter
  answer : Answer
  deriving DecidableEq

/-- Requests in the order of their arrival. -/
abbrev Waiting := List Waiter

namespace Waiting

/-- The most requests that wait at once. -/
def capacity : Nat := 2

/-- Answer requests with a bare status. -/
def answerAll (status : Status) (waiters : List Waiter) : List Reply :=
  waiters.map fun w => ⟨w, .status status⟩

/-- How many requests leave to make room for one more. -/
def excess (q : Waiting) : Nat := q.length + 1 - capacity

/-- Let a new request wait; the oldest ones make room for it. -/
def join (q : Waiting) (w : Waiter) : List Reply × Waiting :=
  (answerAll Status.tooManyRequests (q.take q.excess), q.drop q.excess ++ [w])

/-- A requester goes away; the request keeps its place. -/
def leave (q : Waiting) (number : Nat) : Waiting :=
  q.map fun w => if w.number = number then { w with present := false } else w

/-- Offer a payload to the requests from the oldest on, until a requester takes it.  No queue is
left if nobody does. -/
def handOver (p : Payload) : Waiting → List Reply × Option Waiting
  | [] => ([], none)
  | w :: rest =>
    if w.present then ([⟨w, .payload p⟩], some rest)
    else
      let (replies, left) := handOver p rest
      (⟨w, .payload p⟩ :: replies, left)

/-- A request has waited for at least this long. -/
def isStale (limit now : Nat) (w : Waiter) : Bool := w.since + limit ≤ now

/-- Answer the requests that have waited for at least this long. -/
def sweep (limit now : Nat) (q : Waiting) : List Reply × Waiting :=
  (answerAll Status.noContent (q.filter (isStale limit now)),
    q.filter fun w => !isStale limit now w)

/-- Answer all requests for good. -/
def release (q : Waiting) : List Reply := answerAll Status.gone q

/-! ## No request is lost -/

@[simp] theorem map_waiter_answerAll (status : Status) (waiters : List Waiter) :
    (answerAll status waiters).map (·.waiter) = waiters := by
  simp [answerAll, Function.comp_def]

theorem length_join_le (q : Waiting) (w : Waiter) : (q.join w).2.length ≤ capacity := by
  simp only [join, excess, capacity, List.length_append, List.length_drop, List.length_cons,
    List.length_nil]
  omega

theorem join_conserves (q : Waiting) (w : Waiter) :
    (q.join w).1.map (·.waiter) ++ (q.join w).2 = q ++ [w] := by
  simp only [join, map_waiter_answerAll, ← List.append_assoc, List.take_append_drop]

theorem handOver_conserves (p : Payload) (q : Waiting) :
    (q.handOver p).1.map (·.waiter) ++ (q.handOver p).2.getD [] = q := by
  induction q with
  | nil => rfl
  | cons w rest ih =>
    unfold handOver
    split
    · rfl
    · simp only [List.map_cons, List.cons_append, ih]

theorem sweep_conserves (limit now : Nat) (q : Waiting) :
    ((q.sweep limit now).1.map (·.waiter) ++ (q.sweep limit now).2).Perm q := by
  simp only [sweep, map_waiter_answerAll]
  exact List.filter_append_perm (isStale limit now) q

end Waiting
end Tunnel
end PollTunnel
