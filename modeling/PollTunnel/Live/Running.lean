import PollTunnel.Command.Startup
import PollTunnel.Live.Exporter
import PollTunnel.Live.Local
import PollTunnel.Live.Remote

/-!
# The program at work

`Running` is the side of the tunnel that the program was started for, with the exporter of its
metrics.
-/

set_option autoImplicit false

namespace PollTunnel
namespace Live

/-- A side of the tunnel at work. -/
inductive Running.Side where
  | remote (side : Remote)
  | nearby (side : Local)

/-- A side of the tunnel and the exporter of its metrics. -/
structure Running where
  service : Command.Service Link
  side : Running.Side
  exporter : Exporter := {}

namespace Running

/-- The side that a service is. -/
def Side.ofService (config : Config) : Command.Service Link → Side
  | .gateway gateway target _ =>
    .remote { gateway, host := config.server.targetHost, port := target.number }
  | .client client _ => .nearby { client }

/-- What a side counted. -/
def Side.metrics : Side → Metrics
  | .remote r => r.gateway.tunnel.metrics
  | .nearby l => l.client.metrics

/-- What an event does to a side. -/
def Side.step (m : Moment) (event : Event) : Side → Side × List Action
  | .remote r => (r.step m event).map .remote id
  | .nearby l => (l.step m event).map .nearby id

/-- A service begins to work. -/
def ofService (config : Config) (service : Command.Service Link) : Running :=
  { service, side := Side.ofService config service }

/-- What is to be done to begin with. -/
def first (r : Running) (m : Moment) : Running × List Action :=
  match r.side with
  | .remote _ => (r, .acceptScraper :: Remote.first)
  | .nearby l =>
    let (l, actions) := l.step m .due
    ({ r with side := .nearby l }, .acceptScraper :: actions)

/-- What an event does at a moment. -/
def step (m : Moment) (r : Running) (event : Event) : Running × List Action :=
  let farewell := match event with
    | .stop => r.service.stopping.map .log
    | _ => []
  let (exporter, told) := r.exporter.step r.side.metrics m.wall event
  let (side, actions) := r.side.step m event
  ({ r with side, exporter }, farewell ++ told ++ actions)

/-- The time by which the program acts if nothing happens before. -/
def deadline (r : Running) : Option Nat :=
  match r.side with
  | .remote r => r.deadline
  | .nearby l => l.deadline

/-- The program has nothing more to do. -/
def isDone (r : Running) : Bool :=
  match r.side with
  | .remote r => r.isDone
  | .nearby l => l.isDone

end Running
end Live
end PollTunnel
