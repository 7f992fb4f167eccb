import PollTunnel.Log
import PollTunnel.Payload.Forwarder
import PollTunnel.Payload.Source
import PollTunnel.Tunnel.Error
import PollTunnel.Tunnel.Waiting

/-!
# Sessions

A `Session` is one open connection to the target together with the requests that wait for its data.
It reads a chunk at a time, numbers it, and hands it to the oldest requester; a chunk that nobody
waits for is held until a request comes.

`Session.step` says what each event does at a given time, and which replies it causes.  Requests
and the loop that reads from the target act on a session independently of each other, so events come
in any order.  One that does not apply in the state at hand does nothing.

* `Session.turn` — the loop looks at everything anew: a session asked to close ends, so does one
  that had no request for too long, and requests that have waited for long enough are answered.
* `Session.deliver` — a chunk is handed over, or held.
* `Session.finish` — the loop ends.  That is all: requests are still let in.
* `Session.release` — after that the queue is closed: nobody waits any more, and nobody will.

The loop does not keep the queue to itself when it ends, so a request may come before the queue is
closed.  It is let in like any other, and is told that the session is over when the queue is closed.

`Session.wakeBy` is the time by which the session acts again if nothing happens before.
-/

set_option autoImplicit false

namespace PollTunnel
namespace Tunnel

/-- What the loop of a session is doing. -/
inductive Session.Phase where
  /-- It waits for target data. -/
  | reading
  /-- It has a chunk that nobody has taken. -/
  | holding (chunk : Payload)
  /-- It has ended; the queue is still to be closed. -/
  | ended
  /-- The queue is closed; the connection is still to be shut down. -/
  | closed
  /-- The connection is shut down. -/
  | shutDown
  deriving DecidableEq

/-- One open connection to the target. -/
structure Session (σ : Type) where
  /-- The way to the target. -/
  forwarder : Forwarder σ
  /-- The requests that wait. -/
  waiting : Waiting := []
  /-- When the last request was let in. -/
  lastRequest : Option Nat := none
  /-- How many chunks have been read from the target. -/
  chunks : Nat := 0
  /-- The session was asked to close. -/
  closing : Bool := false
  phase : Session.Phase := .reading
  /-- The time by which the session acts again. -/
  wakeBy : Nat

namespace Session

variable {σ : Type}

/-- Something that happens to a session. -/
inductive Event (σ : Type) where
  /-- A request reaches the session. -/
  | join (number : Nat)
  /-- A requester goes away. -/
  | leave (number : Nat)
  /-- A request asks for the end of the session. -/
  | close
  /-- A request's payload is passed on to the target. -/
  | forward (payload : Payload)
  /-- The same, but nobody waits to see how it ends. -/
  | abandon (payload : Payload)
  /-- A bounded read from the target brings something. -/
  | read (outcome : Except Payload.Error Source.Outcome)
  /-- The loop looks again for a requester who takes the chunk that it holds. -/
  | wake
  /-- The loop notices that the session was asked to close. -/
  | notice
  /-- The queue is closed after the end of the loop. -/
  | release
  /-- The connection is shut down after that. -/
  | shutDown
  /-- The connection to the target changes. -/
  | device (device : σ)

/-- What an event causes outside of the session. -/
inductive Effect where
  /-- A request is answered. -/
  | reply (reply : Reply)
  /-- A payload passes through. -/
  | passed (direction : Direction) (payload : Payload)
  /-- The loop ends, on request or for a reason. -/
  | ended (cause : Option Error)

/-- A session with what an event caused. -/
abbrev Outcome (σ : Type) := Session σ × List Effect

/-- A session on a fresh connection. -/
def start (timeouts : Timeouts) (now : Nat) (device : σ) : Session σ :=
  { forwarder := .onto device, wakeBy := now + timeouts.longPoll.nanos }

/-- The loop has not ended yet. -/
def isRunning (s : Session σ) : Bool :=
  match s.phase with
  | .reading | .holding _ => true
  | .ended | .closed | .shutDown => false

/-- Requests are let in. -/
def isOpen (s : Session σ) : Bool :=
  match s.phase with
  | .reading | .holding _ | .ended => true
  | .closed | .shutDown => false

/-- The time since the last request is at least the limit. -/
def isIdle (timeouts : Timeouts) (now : Nat) (s : Session σ) : Bool :=
  match s.lastRequest with
  | none => false
  | some last => last + timeouts.disconnect.nanos ≤ now

/-- Why a session without requests ends. -/
def idleError (timeouts : Timeouts) (now : Nat) (s : Session σ) : Error :=
  .disconnectTimeout timeouts.disconnect (.ofNanos (now - s.lastRequest.getD now))

/-! ## The loop -/

/-- End the loop. -/
def finish (now : Nat) (cause : Option Error) (s : Session σ) : Outcome σ :=
  ({ s with phase := .ended, wakeBy := now }, [.ended cause])

/-- Look at everything anew before the next read. -/
def turn (timeouts : Timeouts) (now : Nat) (s : Session σ) : Outcome σ :=
  if s.closing then s.finish now none
  else if s.isIdle timeouts now then s.finish now (some (s.idleError timeouts now))
  else
    let (replies, waiting) := s.waiting.sweep timeouts.longPoll.nanos now
    ({ s with waiting, phase := .reading, wakeBy := now + timeouts.longPoll.nanos },
      replies.map .reply)

/-- Hand a chunk to the oldest requester who is there, or hold it. -/
def deliver (timeouts : Timeouts) (now : Nat) (chunk : Payload) (s : Session σ) : Outcome σ :=
  match s.waiting.handOver chunk with
  | (replies, some waiting) =>
    let (s, effects) := { s with waiting }.turn timeouts now
    (s, replies.map .reply ++ effects)
  | (replies, none) =>
    let s := { s with waiting := [] }
    if s.isIdle timeouts now then
      let (s, effects) := s.finish now (some (s.idleError timeouts now))
      (s, replies.map .reply ++ effects)
    else
      let wakeBy := if s.closing then now else now + timeouts.longPoll.nanos
      ({ s with phase := .holding chunk, wakeBy }, replies.map .reply)

/-- Number a chunk of target data and hand it over. -/
def receive (timeouts : Timeouts) (now : Nat) (data : Bytes) (s : Session σ) : Outcome σ :=
  let s := { s with chunks := s.chunks + 1 }
  match Payload.make s.chunks data with
  | .error e => s.finish now (some (.payload e))
  | .ok chunk =>
    let (s, effects) := s.deliver timeouts now chunk
    (s, .passed .outbound chunk :: effects)

/-- Take what a read brought. -/
def read (timeouts : Timeouts) (now : Nat) (outcome : Except Payload.Error Source.Outcome)
    (s : Session σ) : Outcome σ :=
  match outcome with
  | .error e => s.finish now (some (.payload e))
  | .ok .timedOut => s.turn timeouts now
  | .ok (.data data) => s.receive timeouts now data

/-- Close the queue and answer every request that waits. -/
def release (s : Session σ) : Outcome σ :=
  ({ s with phase := .closed, waiting := [] }, s.waiting.release.map .reply)

/-! ## Requests -/

/-- Let a request wait, or tell it at once that the session is over. -/
def join (now number : Nat) (s : Session σ) : Outcome σ :=
  let w : Waiter := ⟨number, now, true⟩
  if s.isOpen then
    let (replies, waiting) := s.waiting.join w
    let wakeBy := if s.phase = .reading then s.wakeBy else now
    ({ s with waiting, lastRequest := some now, wakeBy }, replies.map .reply)
  else (s, [.reply ⟨w, .status Status.gone⟩])

/-- Ask the session to close. -/
def close (now : Nat) (s : Session σ) : Session σ :=
  { s with closing := true, wakeBy := if s.isOpen then now else s.wakeBy }

/-- Pass a request's payload on to the target; a failure asks the session to close. -/
def forward [Sink σ] (now : Nat) (p : Payload) (s : Session σ) : Outcome σ :=
  let (result, forwarder) := s.forwarder.forward p
  let s := { s with forwarder }
  (if result.isOk then s else s.close now, [.passed .inbound p])

/-- Pass on a payload whose requester goes away meanwhile: what was written stays written, and a
failure goes unnoticed. -/
def abandon [Sink σ] (p : Payload) (s : Session σ) : Outcome σ :=
  ({ s with forwarder := (s.forwarder.forward p).2 }, [.passed .inbound p])

/-! ## All events -/

/-- What an event does at a time. -/
def step [Sink σ] (timeouts : Timeouts) (now : Nat) (s : Session σ) : Event σ → Outcome σ
  | .join number => s.join now number
  | .leave number => ({ s with waiting := s.waiting.leave number }, [])
  | .close => (s.close now, [])
  | .forward payload => s.forward now payload
  | .abandon payload => s.abandon payload
  | .read outcome => if s.phase = .reading then s.read timeouts now outcome else (s, [])
  | .wake =>
    match s.phase with
    | .holding chunk => s.deliver timeouts now chunk
    | _ => (s, [])
  | .notice => if s.closing ∧ s.isRunning then s.finish now none else (s, [])
  | .release => if s.phase = .ended then s.release else (s, [])
  | .shutDown =>
    if s.phase = .closed then
      ({ s with forwarder := s.forwarder.shutdown.2, phase := .shutDown }, [])
    else (s, [])
  | .device device =>
    ({ s with forwarder := { s.forwarder with outlet := { s.forwarder.outlet with device } } }, [])

/-- What events with their times do one after another. -/
def run [Sink σ] (timeouts : Timeouts) (s : Session σ) : List (Nat × Event σ) → Outcome σ
  | [] => (s, [])
  | (now, event) :: rest =>
    let (s, effects) := s.step timeouts now event
    let (s, more) := run timeouts s rest
    (s, effects ++ more)

/-- Requests are let in until the queue is closed, which comes after the end of the loop. -/
theorem isOpen_iff (s : Session σ) : s.isOpen = true ↔ s.isRunning = true ∨ s.phase = .ended := by
  rw [isOpen, isRunning]
  cases s.phase <;> simp

theorem isOpen_of_isRunning {s : Session σ} (h : s.isRunning = true) : s.isOpen = true :=
  s.isOpen_iff.2 (.inl h)

theorem isRunning_finish (now : Nat) (cause : Option Error) (s : Session σ) :
    (s.finish now cause).1.isRunning = false := rfl

theorem step_join_of_not_isOpen [Sink σ] (timeouts : Timeouts) (now number : Nat)
    (s : Session σ) (h : s.isOpen = false) :
    s.step timeouts now (.join number) =
      (s, [.reply ⟨⟨number, now, true⟩, .status Status.gone⟩]) := by
  simp [step, join, h]

end Session
end Tunnel
end PollTunnel
