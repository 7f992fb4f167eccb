import PollTunnel.Bytes
import PollTunnel.IoError
import PollTunnel.Text.Quoted

/-!
# Payloads

A `Payload` is a chunk of the tunnelled stream with its place in it.  Sequence numbers start at
one and stay below 2^63, so that they have a decimal form as a signed number of 64 bits; the type
holds no other.

`Payload.Error` lists what can go wrong with one.
-/

set_option autoImplicit false

namespace PollTunnel

/-- The largest sequence number. -/
def maxSequence : Nat := Nat.pow 2 63 - 1

/-- A numbered chunk of the stream. -/
structure Payload where
  /-- Its place, counted from one. -/
  sequence : Nat
  /-- The chunk. -/
  data : Bytes
  sequence_pos : 0 < sequence
  sequence_le : sequence ≤ maxSequence
  deriving DecidableEq

/-- Why a payload was not built, read or passed on. -/
inductive Payload.Error where
  /-- A sequence number outside the range. -/
  | invalidSequence
  /-- A body without a sequence number. -/
  | missingSequence
  /-- A sequence number that is no integer. -/
  | malformedSequence (value : String)
  /-- The source has ended. -/
  | targetClosed
  /-- Too many payloads wait for a gap to close. -/
  | queueFull
  /-- The device failed. -/
  | io (cause : IoError)
  deriving DecidableEq, Repr, Inhabited

namespace Payload

/-- The message for an error. -/
def Error.message : Error → String
  | .invalidSequence => "Sequence must be positive"
  | .missingSequence => "Missing sequence header"
  | .malformedSequence value => "Malformed sequence header '" ++ value ++ "'"
  | .targetClosed => "Target server connection closed"
  | .queueFull => "Too many messages queued"
  | .io cause => "I/O error: " ++ cause.text

/-- The name of an error's kind. -/
def Error.name : Error → String
  | .invalidSequence => "InvalidSequence"
  | .missingSequence => "MissingSequenceHeader"
  | .malformedSequence _ => "MalformedSequenceHeader"
  | .targetClosed => "TargetClosed"
  | .queueFull => "QueueFull"
  | .io _ => "Io"

/-- The full form of an error. -/
def Error.detail (e : Error) : String :=
  match e with
  | .malformedSequence value => e.name ++ "(" ++ Text.quoted value ++ ")"
  | .io cause => e.name ++ "(" ++ cause.detail ++ ")"
  | _ => e.name

/-- The payload with this number and these bytes, if the number lies in the range. -/
def make (sequence : Nat) (data : Bytes) : Except Error Payload :=
  if h : 0 < sequence ∧ sequence ≤ maxSequence then .ok ⟨sequence, data, h.1, h.2⟩
  else .error .invalidSequence

theorem make_self (p : Payload) : make p.sequence p.data = .ok p := by
  simp [make, p.sequence_pos, p.sequence_le]

theorem make_eq_ok_iff {n : Nat} {data : Bytes} {p : Payload} :
    make n data = .ok p ↔ p.sequence = n ∧ p.data = data := by
  constructor
  · intro h
    unfold make at h
    split at h
    · cases h; exact ⟨rfl, rfl⟩
    · cases h
  · rintro ⟨rfl, rfl⟩
    exact make_self p

end Payload
end PollTunnel
