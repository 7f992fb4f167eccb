import PollTunnel.Payload

/-!
# Devices that take bytes

A `Sink` is a device with three calls, each of which may fail: it is offered bytes and takes some
of them, it is flushed, and it is shut down.  An `Outlet` is a device together with the bytes that
it has taken so far.

* `Outlet.push` offers bytes until all are taken, a call fails, or a call takes none.
* `Outlet.send` pushes and then flushes.

`FaultySink` is a device with a limited budget and failures of its own.
-/

set_option autoImplicit false

namespace PollTunnel

/-- A device that takes bytes. -/
class Sink (σ : Type) where
  /-- Offer bytes: the device takes the first so many of them, or fails. -/
  accept : σ → Bytes → Except IoError Nat × σ
  /-- Ask the device to hand on what it has taken. -/
  flush : σ → Except IoError Unit × σ
  /-- Tell the device that no more bytes will come. -/
  shutdown : σ → Except IoError Unit × σ

/-- A device and the bytes that it has taken. -/
structure Outlet (σ : Type) where
  device : σ
  /-- The bytes taken by each push, the latest first. -/
  blocks : List Bytes := []

namespace Outlet

variable {σ : Type}

/-- Every byte that the device has taken, in order. -/
def written (o : Outlet σ) : Bytes := o.blocks.reverse.flatten

/-- Offer bytes until none is left: how many the device took, how it ended, and the device. -/
def offer [Sink σ] (device : σ) (bytes : Bytes) (taken : Nat) : Nat × Except IoError Unit × σ :=
  match bytes with
  | [] => (taken, .ok (), device)
  | b :: rest =>
    match Sink.accept device (b :: rest) with
    | (.error e, device) => (taken, .error e, device)
    | (.ok 0, device) => (taken, .error (.plain .writeZero), device)
    | (.ok (n + 1), device) => offer device (rest.drop n) (taken + 1 + min n rest.length)
termination_by bytes.length
decreasing_by simp only [List.length_drop, List.length_cons]; omega

/-- Write bytes; those taken before a failure stay written. -/
def push [Sink σ] (o : Outlet σ) (bytes : Bytes) : Except IoError Unit × Outlet σ :=
  match offer o.device bytes 0 with
  | (taken, result, device) => (result, ⟨device, bytes.take taken :: o.blocks⟩)

/-- Flush the device. -/
def flush [Sink σ] (o : Outlet σ) : Except IoError Unit × Outlet σ :=
  match Sink.flush o.device with
  | (result, device) => (result, { o with device })

/-- Shut the device down. -/
def shutdown [Sink σ] (o : Outlet σ) : Except IoError Unit × Outlet σ :=
  match Sink.shutdown o.device with
  | (result, device) => (result, { o with device })

/-- Write bytes and flush. -/
def send [Sink σ] (o : Outlet σ) (bytes : Bytes) : Except IoError Unit × Outlet σ :=
  match o.push bytes with
  | (.error e, o) => (.error e, o)
  | (.ok (), o) => o.flush

/-- The bytes taken so far, and the outlet without the memory of them. -/
def drain (o : Outlet σ) : Bytes × Outlet σ := (o.written, { o with blocks := [] })

@[simp] theorem written_mk_cons (device : σ) (block : Bytes) (blocks : List Bytes) :
    (Outlet.mk device (block :: blocks)).written = (Outlet.mk device blocks).written ++ block := by
  simp [written]

end Outlet

/-- A device that takes everything. -/
structure SoundSink where
  deriving DecidableEq, Repr, Inhabited

instance : Sink SoundSink where
  accept device bytes := (.ok bytes.length, device)
  flush device := (.ok (), device)
  shutdown device := (.ok (), device)

/-- How a faulty device behaves from now on. -/
structure FaultySink.Behaviour where
  /-- The most bytes taken by one call. -/
  chunk : Option Nat := none
  /-- The bytes still taken before the device is full. -/
  budget : Option Nat := none
  /-- How a full device fails; without it a full device takes no byte. -/
  failure : Option IoError.Kind := none
  /-- How flushing fails. -/
  flushFailure : Option IoError.Kind := none
  /-- How shutting down fails. -/
  shutdownFailure : Option IoError.Kind := none
  deriving DecidableEq, Repr, Inhabited

/-- A device with failures of its own, which counts the calls it gets. -/
structure FaultySink where
  behaviour : FaultySink.Behaviour := {}
  flushes : Nat := 0
  shutdowns : Nat := 0
  deriving DecidableEq, Repr, Inhabited

namespace FaultySink

/-- The result of a call that fails in a set way, if in any. -/
def outcome : Option IoError.Kind → Except IoError Unit
  | none => .ok ()
  | some kind => .error (.plain kind)

/-- Take what chunk and budget allow. -/
def accept (s : FaultySink) (bytes : Bytes) : Except IoError Nat × FaultySink :=
  let limit := min bytes.length (s.behaviour.chunk.getD bytes.length)
  match s.behaviour.budget with
  | none => (.ok limit, s)
  | some 0 =>
    match s.behaviour.failure with
    | some kind => (.error (.plain kind), s)
    | none => (.ok 0, s)
  | some budget =>
    let taken := min limit budget
    (.ok taken, { s with behaviour := { s.behaviour with budget := some (budget - taken) } })

instance : Sink FaultySink where
  accept := accept
  flush s := (outcome s.behaviour.flushFailure, { s with flushes := s.flushes + 1 })
  shutdown s := (outcome s.behaviour.shutdownFailure, { s with shutdowns := s.shutdowns + 1 })

end FaultySink
end PollTunnel
