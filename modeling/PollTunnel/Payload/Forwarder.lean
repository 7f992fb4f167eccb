import PollTunnel.Payload.Sink

/-!
# Delivery in sequence order

Requests overtake each other, so payloads arrive in any order.  A `Forwarder` writes a payload as
soon as every earlier one is written, and holds it back until then.

* A payload that was written before, or that waits already, is dropped without an error.
* At most `maxQueued` payloads wait; one more is refused.
* A payload whose write fails is lost if it had waited; bytes taken before the failure stay
  written.
-/

set_option autoImplicit false

namespace PollTunnel

/-- The most payloads that wait for a gap to close. -/
def maxQueued : Nat := 100

/-- Writes payloads to an outlet strictly in sequence order. -/
structure Forwarder (σ : Type) where
  outlet : Outlet σ
  /-- The sequence number up to which everything is written. -/
  last : Nat := 0
  /-- The payloads that wait, by rising sequence number. -/
  queue : List Payload := []

namespace Forwarder

variable {σ : Type}

/-- A forwarder onto a fresh device. -/
def onto (device : σ) : Forwarder σ := { outlet := { device } }

/-- Put a payload behind those with smaller numbers. -/
def enqueue (p : Payload) : List Payload → List Payload
  | [] => [p]
  | q :: rest => if p.sequence < q.sequence then p :: q :: rest else q :: enqueue p rest

/-- A payload with this number waits. -/
def holds (f : Forwarder σ) (sequence : Nat) : Bool :=
  f.queue.any fun p => p.sequence == sequence

/-- Write payloads from the front for as long as each is the next one. -/
def release [Sink σ] (outlet : Outlet σ) (last : Nat) :
    List Payload → Except Payload.Error Unit × Forwarder σ
  | [] => (.ok (), { outlet, last, queue := [] })
  | p :: rest =>
    if p.sequence = last + 1 then
      match outlet.send p.data with
      | (.ok (), outlet) => release outlet p.sequence rest
      | (.error e, outlet) => (.error (.io e), { outlet, last, queue := rest })
    else (.ok (), { outlet, last, queue := p :: rest })

/-- Take a payload: write it and what waited for it, hold it back, drop it or refuse it. -/
def forward [Sink σ] (f : Forwarder σ) (p : Payload) : Except Payload.Error Unit × Forwarder σ :=
  if p.sequence ≤ f.last ∨ f.holds p.sequence = true then (.ok (), f)
  else if p.sequence = f.last + 1 then release f.outlet f.last (p :: f.queue)
  else if maxQueued ≤ f.queue.length then (.error .queueFull, f)
  else (.ok (), { f with queue := enqueue p f.queue })

/-- Shut the device down. -/
def shutdown [Sink σ] (f : Forwarder σ) : Except IoError Unit × Forwarder σ :=
  match f.outlet.shutdown with
  | (result, outlet) => (result, { f with outlet })

/-- Take several payloads one after another, whatever becomes of each. -/
def forwardAll [Sink σ] (f : Forwarder σ) :
    List Payload → List (Except Payload.Error Unit) × Forwarder σ
  | [] => ([], f)
  | p :: rest =>
    let (result, f) := f.forward p
    let (results, f) := forwardAll f rest
    (result :: results, f)

end Forwarder
end PollTunnel
