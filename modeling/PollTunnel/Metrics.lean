import PollTunnel.Http.Message
import PollTunnel.Log

/-!
# Metrics

`Metrics` counts payloads and their bytes by direction, answers of the tunnel endpoint by status,
and the sessions that are open.  `Metrics.lines` is their exposition, one line for each metric
that was touched, in sorted order.
-/

set_option autoImplicit false

namespace PollTunnel

/-- Payloads and their bytes in one direction. -/
structure Metrics.Traffic where
  payloads : Nat := 0
  bytes : Nat := 0
  deriving DecidableEq, Repr, Inhabited

/-- Everything that is counted. -/
structure Metrics where
  inbound : Metrics.Traffic := {}
  outbound : Metrics.Traffic := {}
  /-- How many answers had each status. -/
  responses : List (Status × Nat) := []
  /-- The open sessions, once there has been one. -/
  sessions : Option Int := none
  deriving DecidableEq, Repr, Inhabited

namespace Metrics

/-- One payload more. -/
def Traffic.record (t : Traffic) (size : Nat) : Traffic :=
  { payloads := t.payloads + 1, bytes := t.bytes + size }

/-- Count a payload of this size. -/
def recordPayload (m : Metrics) (direction : Direction) (size : Nat) : Metrics :=
  match direction with
  | .inbound => { m with inbound := m.inbound.record size }
  | .outbound => { m with outbound := m.outbound.record size }

/-- As many answers more of one status. -/
def tally (counts : List (Status × Nat)) (more : Status × Nat) : List (Status × Nat) :=
  match counts with
  | [] => [more]
  | (s, n) :: rest =>
    if s = more.1 then (s, n + more.2) :: rest else (s, n) :: tally rest more

/-- Count an answer of the tunnel endpoint. -/
def recordResponse (m : Metrics) (status : Status) : Metrics :=
  { m with responses := tally m.responses (status, 1) }

/-- A session was opened. -/
def sessionOpened (m : Metrics) : Metrics :=
  { m with sessions := some (m.sessions.getD 0 + 1) }

/-- A session has ended. -/
def sessionClosed (m : Metrics) : Metrics :=
  { m with sessions := some (m.sessions.getD 0 - 1) }

/-! ## Several counts together -/

/-- What two parts counted in one direction. -/
def Traffic.add (a b : Traffic) : Traffic :=
  { payloads := a.payloads + b.payloads, bytes := a.bytes + b.bytes }

/-- What two parts counted, together. -/
def add (a b : Metrics) : Metrics :=
  { inbound := a.inbound.add b.inbound
    outbound := a.outbound.add b.outbound
    responses := b.responses.foldl tally a.responses
    sessions := match a.sessions, b.sessions with
      | none, s | s, none => s
      | some m, some n => some (m + n) }

/-! ## Exposition -/

/-- One labelled line. -/
def line (name label value : String) (n : Nat) : String :=
  name ++ "\x7b" ++ label ++ "=\"" ++ value ++ "\"\x7d " ++ toString n

/-- The lines for one direction, if a payload went that way. -/
def Traffic.lines (t : Traffic) (direction : Direction) : List String :=
  if t.payloads = 0 then []
  else
    [line "tunnel_payloads_total" "direction" direction.label t.payloads,
      line "tunnel_payload_bytes_total" "direction" direction.label t.bytes]

/-- The exposition of everything that was touched. -/
def lines (m : Metrics) : List String :=
  let all := m.inbound.lines .inbound ++ m.outbound.lines .outbound ++
    m.responses.map (fun (status, n) => line "tunnel_responses_total" "status" (toString status) n) ++
    (match m.sessions with
      | none => []
      | some n => ["tunnel_sessions_active " ++ toString n])
  all.mergeSort (fun a b => decide (a ≤ b))

end Metrics
end PollTunnel
