import PollTunnel.Tunnel.Channel

/-!
# The tasks of a channel

A call to write or to close and every response to a request have a task of their own, and the tasks
of one channel run at the same time.  What they share is the channel, and they look at it or change
it one access at a time: `Task` is what a task does next, and `Channel.access` what comes of that.

`Crowd.step` lets a task begin, or lets one of those that have begun make its next access.  Any
order is possible.  In particular a task may look whether the channel is open, and go on when it no
longer is.

A task that runs from its beginning to its end with no other in between does what `Channel.step`
says (`Crowd.run_alone`).
-/

set_option autoImplicit false

namespace PollTunnel
namespace Tunnel
namespace Channel

variable {σ : Type}

/-! ## One access -/

/-- What a task does next. -/
inductive Task where
  /-- Look whether data may be written. -/
  | write (data : Bytes)
  /-- Take the next number for data. -/
  | number (data : Bytes)
  /-- Look whether a request may be started: a poll, or the post of a payload. -/
  | launch (payload : Option Payload)
  /-- Start such a request. -/
  | start (payload : Option Payload)
  /-- Shut the channel.  Whoever closes it from this side is leaving, and tells the far end. -/
  | shut (leaving : Bool)
  /-- Tell whoever waits for the channel to close. -/
  | signal (leaving : Bool)
  /-- Tell the far end. -/
  | disconnect
  /-- Look whether the head of a response counts, and take it if it does. -/
  | head (request : Nat) (status : Status) (headers : Headers)
  /-- Take the body of a response. -/
  | body (request : Nat) (content : Except IoError Bytes)

/-- What comes of an access. -/
structure Access (σ : Type) where
  channel : Channel σ
  effects : List Effect := []
  /-- What the task does next, unless it is over. -/
  next : Option Task := none
  /-- What a call to write returns. -/
  result : Option (Except Error Nat) := none

/-- The request that carries a payload, or none. -/
def Kind.carrying : Option Payload → Kind
  | some p => .post p
  | none => .poll

/-- What a call to write returns when the post of its data was started, and when it was not. -/
def returned? (payload : Option Payload) : Option (Except Error Nat) :=
  payload.map fun p => .ok p.data.length

/-- How a task goes on with a response. -/
def Sequel.task? : Sequel → Option Task
  | .nothing => none
  | .poll => some (.launch none)
  | .stop => some (.shut false)

/-- A task makes its next access. -/
def access [Sink σ] (c : Channel σ) : Task → Access σ
  | .write data =>
    if c.isOpen then
      if data = [] then { channel := c, result := some (.ok 0) }
      else { channel := c, next := some (.number data) }
    else { channel := c, result := some (.error .channelClosed) }
  | .number data =>
    match Payload.make c.number.written data with
    | .error e => { channel := c.number, result := some (.error (.payload e)) }
    | .ok p => { channel := c.number, next := some (.launch (some p)) }
  | .launch payload =>
    if c.isOpen then { channel := c, next := some (.start payload) }
    else { channel := c, result := returned? payload }
  | .start payload =>
    let (c, effects) := c.start (.carrying payload)
    { channel := c, effects, result := returned? payload }
  | .shut leaving =>
    if c.isOpen then { channel := c.shut, next := some (.signal leaving) } else { channel := c }
  | .signal leaving =>
    let (c, effects) := c.signal
    { channel := c, effects, next := if leaving then some .disconnect else none }
  | .disconnect =>
    let (c, effects) := c.start .disconnect
    { channel := c, effects }
  | .head request status headers =>
    if c.isOpen then
      let (c, sequel) := c.takeHead request status headers
      { channel := c, next := sequel.task? }
    else { channel := c }
  | .body request content =>
    let (c, sequel) := c.takeBody request content
    { channel := c, next := sequel.task? }

/-! ## All tasks -/

/-- What the task of an event does first.  A device changes without one. -/
def Event.task? : Event σ → Option Task
  | .write data => some (.write data)
  | .close => some (.shut true)
  | .head request status headers => some (.head request status headers)
  | .body request content => some (.body request content)
  | .fail _ => some (.shut false)
  | .device _ => none

/-- An access that was made. -/
structure Deed (σ : Type) where
  /-- The number of the task. -/
  task : Nat
  act : Task
  /-- The channel as the task found it. -/
  before : Channel σ

/-- What came of an access. -/
def Deed.outcome [Sink σ] (d : Deed σ) : Access σ := d.before.access d.act

/-- A channel with the tasks that share it. -/
structure Crowd (σ : Type) where
  channel : Channel σ
  /-- What each task does next, in the order in which they began; `none` for those that are over. -/
  tasks : List (Option Task) := []

/-- Something that happens to a channel with its tasks. -/
inductive Crowd.Event (σ : Type) where
  /-- A call is made or a response comes: the task for it begins. -/
  | begin (event : Channel.Event σ)
  /-- A task makes its next access. -/
  | turn (task : Nat)

namespace Crowd

/-- A channel onto a device that nobody shares yet. -/
def onto (device : σ) : Crowd σ := { channel := (Channel.begin device).1 }

variable [Sink σ]

/-- What an event does, with the access that is made. -/
def step (s : Crowd σ) : Event σ → Crowd σ × List (Deed σ)
  | .begin event =>
    match event.task? with
    | some task => ({ s with tasks := s.tasks ++ [some task] }, [])
    | none => ({ channel := (s.channel.step event).1, tasks := s.tasks ++ [none] }, [])
  | .turn k =>
    match s.tasks[k]? with
    | some (some task) =>
      let access := s.channel.access task
      ({ channel := access.channel, tasks := s.tasks.set k access.next }, [⟨k, task, s.channel⟩])
    | _ => (s, [])

/-- What events do one after another, with all accesses that are made. -/
def run (s : Crowd σ) : List (Event σ) → Crowd σ × List (Deed σ)
  | [] => (s, [])
  | event :: rest =>
    let (s, deeds) := s.step event
    let (s, more) := run s rest
    (s, deeds ++ more)

/-! ## One task alone -/

/-- An event, and then its task until that is over. -/
def alone (s : Crowd σ) (event : Channel.Event σ) : List (Event σ) :=
  .begin event :: List.replicate 4 (.turn s.tasks.length)

/-- What the accesses caused. -/
def effects (deeds : List (Deed σ)) : List Effect := deeds.flatMap (·.outcome.effects)

end Crowd
end Channel
end Tunnel
end PollTunnel
