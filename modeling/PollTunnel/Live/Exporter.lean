import PollTunnel.Http.Connection
import PollTunnel.Live.Basic
import PollTunnel.Metrics

/-!
# Telling the metrics

An `Exporter` answers every request on the port of the metrics with their exposition.
-/

set_option autoImplicit false

namespace PollTunnel
namespace Live

/-- The connections to the port of the metrics. -/
structure Exporter where
  connections : List (Nat × Connection) := []

namespace Exporter

/-- The longest body that a request may have. -/
def maxBody : Nat := 64 * 1024

/-- The exposition as a response. -/
def report (metrics : Metrics) : Response :=
  { body := Bytes.ofString (String.join (metrics.lines.map (· ++ "\n"))) }

/-- The connection of a number changes. -/
def set (e : Exporter) (number : Nat) (c : Connection) : Exporter :=
  { connections := e.connections.map fun row => if row.1 = number then (number, c) else row }

/-- A connection is over. -/
def drop (e : Exporter) (number : Nat) : Exporter :=
  { connections := e.connections.filter (·.1 ≠ number) }

/-- What a socket of the exporter's brought is dealt with. -/
def receive (e : Exporter) (metrics : Metrics) (wall : UInt64) (number : Nat)
    (outcome : Except IoError Bytes) : Exporter × List Action :=
  match e.connections.lookup number, outcome with
  | none, _ => (e, [])
  | some _, .error _ | some _, .ok [] => (e.drop number, [.close (.scraper number)])
  | some c, .ok bytes =>
    match (c.take bytes).next maxBody number with
    | (.more, c) => (e.set number c.ask, [.receive (.scraper number)])
    | (.malformed, _) =>
      (e.drop number,
        [.send (.scraper number) (Wire.writeResponse false (.ofStatus Status.badRequest)),
          .close (.scraper number)])
    | (.done _ _, _) =>
      (e.drop number,
        [.send (.scraper number)
          (Wire.writeResponse false (Wire.dated wall.toNat (report metrics))),
          .close (.scraper number)])

/-- What an event does. -/
def step (e : Exporter) (metrics : Metrics) (wall : UInt64) : Event → Exporter × List Action
  | .came (.scraper number) _ =>
    ({ connections := e.connections ++ [(number, Connection.ask {})] },
      [.receive (.scraper number), .acceptScraper])
  | .received (.scraper number) outcome => e.receive metrics wall number outcome
  | _ => (e, [])

end Exporter
end Live
end PollTunnel
