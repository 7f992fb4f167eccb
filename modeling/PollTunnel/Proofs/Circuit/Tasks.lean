import PollTunnel.Proofs.Circuit.Near
import PollTunnel.Tunnel.Tasks

/-!
# What the tasks of a channel do

A task that nobody interrupts does what its event is said to do (`Crowd.run_alone`).

A task that is interrupted finds a different channel at each of its accesses.  What one access can
come to, for a channel as it happens to be, is said once (`access_acts`), and so is what an event
can come to for a channel with all of its tasks (`Crowd.step_steps`).
-/

set_option autoImplicit false

namespace PollTunnel
namespace Tunnel
namespace Channel

variable {σ : Type} [Sink σ]

namespace Crowd

/-! ## One task alone -/

theorem step_turn (c : Channel σ) (tasks : List (Option Task)) (task : Task) :
    (Crowd.mk c (tasks ++ [some task])).step (.turn tasks.length) =
      (⟨(c.access task).channel, tasks ++ [(c.access task).next]⟩, [⟨tasks.length, task, c⟩]) := by
  simp [step]

/-- A task that runs alone is over after so many accesses at most, and this is what they come to. -/
inductive Completes : Nat → Channel σ → Option Task → Outcome σ → Prop
  | done {n : Nat} {c : Channel σ} : Completes n c none (c, [])
  | access {n : Nat} {c : Channel σ} {task : Task} {a : Access σ} {o all : Outcome σ}
      (ha : c.access task = a) (h : Completes n a.channel a.next o)
      (hall : all = (o.1, a.effects ++ o.2)) : Completes (n + 1) c (some task) all

theorem run_of_completes {n : Nat} {c : Channel σ} {next : Option Task} {o : Outcome σ}
    (h : Completes n c next o) (tasks : List (Option Task)) :
    ((Crowd.mk c (tasks ++ [next])).run (List.replicate n (.turn tasks.length))).1 =
        ⟨o.1, tasks ++ [none]⟩ ∧
      effects ((Crowd.mk c (tasks ++ [next])).run (List.replicate n (.turn tasks.length))).2 =
        o.2 := by
  induction h with
  | @done n c =>
    have hover : ∀ n, (Crowd.mk c (tasks ++ [none])).run (List.replicate n (.turn tasks.length)) =
        (⟨c, tasks ++ [none]⟩, []) := by
      intro n
      induction n with
      | zero => rfl
      | succ n ih =>
        have hstep : (Crowd.mk c (tasks ++ [none])).step (.turn tasks.length) =
            (⟨c, tasks ++ [none]⟩, []) := by
          simp [step]
        simp only [List.replicate_succ, run, hstep, ih, List.append_nil]
    rw [hover]
    exact ⟨rfl, rfl⟩
  | access ha h hall ih =>
    simp only [List.replicate_succ, run, step_turn, hall, ha]
    refine ⟨ih.1, ?_⟩
    rw [← ih.2, ← ha]
    rfl

theorem Completes.mono {n m : Nat} {c : Channel σ} {next : Option Task} {o : Outcome σ}
    (h : Completes n c next o) (hle : n ≤ m) : Completes m c next o := by
  induction h generalizing m with
  | done => exact .done
  | access ha _ hall ih =>
    cases m with
    | zero => exact absurd hle (Nat.not_succ_le_zero _)
    | succ m => exact .access ha (ih (Nat.le_of_succ_le_succ hle)) hall

theorem completes_launch (c : Channel σ) (payload : Option Payload) :
    Completes 2 c (some (.launch payload)) (c.launch (.carrying payload)) := by
  rw [launch]
  cases hopen : c.isOpen with
  | true =>
    have hlook : c.access (.launch payload) = { channel := c, next := some (.start payload) } :=
      if_pos hopen
    exact .access hlook (.access rfl .done rfl) rfl
  | false =>
    have hlook : c.access (.launch payload) = { channel := c, result := returned? payload } :=
      if_neg (by simp [hopen])
    exact .access hlook .done rfl

theorem completes_stop (c : Channel σ) : Completes 2 c (some (.shut false)) c.stop := by
  rw [stop]
  cases hopen : c.isOpen with
  | true =>
    have hshut : c.access (.shut false) = { channel := c.shut, next := some (.signal false) } :=
      if_pos hopen
    exact .access hshut (.access rfl .done rfl) rfl
  | false =>
    have hshut : c.access (.shut false) = { channel := c } := if_neg (by simp [hopen])
    exact .access hshut .done rfl

theorem completes_close (c : Channel σ) : Completes 3 c (some (.shut true)) c.close := by
  rw [close]
  cases hopen : c.isOpen with
  | true =>
    have hshut : c.access (.shut true) = { channel := c.shut, next := some (.signal true) } :=
      if_pos hopen
    exact .access hshut (.access rfl (.access rfl .done rfl) rfl) rfl
  | false =>
    have hshut : c.access (.shut true) = { channel := c } := if_neg (by simp [hopen])
    exact .access hshut .done rfl

theorem completes_follow (c : Channel σ) (sequel : Sequel) :
    Completes 2 c sequel.task? (c.follow sequel) := by
  cases sequel with
  | nothing => exact .done
  | poll => exact completes_launch c none
  | stop => exact completes_stop c

theorem completes_write (c : Channel σ) (data : Bytes) :
    Completes 4 c (some (.write data)) (c.write data).2 := by
  rw [write]
  cases hopen : c.isOpen with
  | true =>
    by_cases hdata : data = []
    · have hlook : c.access (.write data) = { channel := c, result := some (.ok 0) } := by
        rw [access, if_pos hopen, if_pos hdata]
      rw [if_pos rfl, if_pos hdata]
      exact .access hlook .done rfl
    · have hlook : c.access (.write data) = { channel := c, next := some (.number data) } := by
        rw [access, if_pos hopen, if_neg hdata]
      rw [if_pos rfl, if_neg hdata]
      cases hmake : Payload.make c.number.written data with
      | error e =>
        have hnumber : c.access (.number data) =
            { channel := c.number, result := some (.error (.payload e)) } := by
          rw [access, hmake]
        exact .access hlook (.access hnumber (n := 2) .done rfl) rfl
      | ok p =>
        have hnumber : c.access (.number data) =
            { channel := c.number, next := some (.launch (some p)) } := by
          rw [access, hmake]
        exact .access hlook (.access hnumber (completes_launch c.number (some p)) rfl) rfl
  | false =>
    have hlook : c.access (.write data) =
        { channel := c, result := some (.error .channelClosed) } := if_neg (by simp [hopen])
    exact .access hlook .done rfl

theorem completes_head (c : Channel σ) (request : Nat) (status : Status) (headers : Headers) :
    Completes 3 c (some (.head request status headers)) (c.head request status headers) := by
  rw [head]
  cases hopen : c.isOpen with
  | true =>
    have hlook : c.access (.head request status headers) =
        { channel := (c.takeHead request status headers).1
          next := (c.takeHead request status headers).2.task? } := if_pos hopen
    exact .access hlook (completes_follow _ _) rfl
  | false =>
    have hlook : c.access (.head request status headers) = { channel := c } :=
      if_neg (by simp [hopen])
    exact .access hlook .done rfl

theorem completes_body (c : Channel σ) (request : Nat) (content : Except IoError Bytes) :
    Completes 3 c (some (.body request content)) (c.body request content) :=
  .access rfl (completes_follow _ _) rfl

/-- **A task that nobody interrupts does what the event is said to do.** -/
theorem run_alone (s : Crowd σ) (event : Channel.Event σ) :
    (s.run (s.alone event)).1 = ⟨(s.channel.step event).1, s.tasks ++ [none]⟩ ∧
      effects (s.run (s.alone event)).2 = (s.channel.step event).2 := by
  have hrun : ∀ task, event.task? = some task → Completes 4 s.channel (some task)
      (s.channel.step event) → (s.run (s.alone event)).1 =
          ⟨(s.channel.step event).1, s.tasks ++ [none]⟩ ∧
        effects (s.run (s.alone event)).2 = (s.channel.step event).2 := by
    intro task htask hcompletes
    have hbegin : s.step (.begin event) = ({ s with tasks := s.tasks ++ [some task] }, []) := by
      rw [step, htask]
    rw [alone, run, hbegin]
    exact run_of_completes hcompletes s.tasks
  cases event with
  | write data => exact hrun _ rfl (completes_write s.channel data)
  | close => exact hrun _ rfl ((completes_close s.channel).mono (by decide))
  | head request status headers =>
    exact hrun _ rfl ((completes_head s.channel request status headers).mono (by decide))
  | body request content =>
    exact hrun _ rfl ((completes_body s.channel request content).mono (by decide))
  | fail request => exact hrun _ rfl ((completes_stop s.channel).mono (by decide))
  | device device =>
    exact run_of_completes (.done (n := 4) (c := (s.channel.step (.device device)).1)) s.tasks

end Crowd

/-! ## What an access can do -/

/-- What an access can come to, for a channel as its task finds it. -/
inductive Acts (c : Channel σ) : Task → Access σ → Prop where
  /-- A write finds the channel closed. -/
  | refused {data : Bytes} (hclosed : c.isOpen = false) :
      Acts c (.write data) { channel := c, result := some (.error .channelClosed) }
  /-- There is nothing to write. -/
  | empty (hopen : c.isOpen = true) : Acts c (.write []) { channel := c, result := some (.ok 0) }
  /-- Data will be numbered. -/
  | accepted {data : Bytes} (hopen : c.isOpen = true) (hdata : data ≠ []) :
      Acts c (.write data) { channel := c, next := some (.number data) }
  /-- There is no number left. -/
  | spent {data : Bytes} {e : Payload.Error} (hspent : maxSequence ≤ c.written) :
      Acts c (.number data) { channel := c.number, result := some (.error (.payload e)) }
  | numbered {p : Payload} (hsequence : p.sequence = c.written + 1) :
      Acts c (.number p.data) { channel := c.number, next := some (.launch (some p)) }
  /-- A request may be started. -/
  | allowed {payload : Option Payload} (hopen : c.isOpen = true) :
      Acts c (.launch payload) { channel := c, next := some (.start payload) }
  /-- A request is not started, since the channel has closed. -/
  | dropped {payload : Option Payload} (hclosed : c.isOpen = false) :
      Acts c (.launch payload) { channel := c, result := returned? payload }
  | started {payload : Option Payload} :
      Acts c (.start payload)
        { channel := (c.start (.carrying payload)).1
          effects := (c.start (.carrying payload)).2
          result := returned? payload }
  /-- The channel closes. -/
  | closes {leaving : Bool} (hopen : c.isOpen = true) :
      Acts c (.shut leaving) { channel := c.shut, next := some (.signal leaving) }
  /-- The channel has been closed before. -/
  | late {leaving : Bool} (hclosed : c.isOpen = false) : Acts c (.shut leaving) { channel := c }
  | signals {leaving : Bool} :
      Acts c (.signal leaving)
        { channel := { c with closer := true }
          effects := [.closed]
          next := if leaving then some .disconnect else none }
  /-- The far end is told. -/
  | tells :
      Acts c .disconnect
        { channel := (c.start .disconnect).1, effects := (c.start .disconnect).2 }
  /-- The body of a response is waited for. -/
  | taken {request : Nat} {headers : Headers} (hopen : c.isOpen = true) :
      Acts c (.head request Status.ok headers)
        { channel := { c with pending := c.pending ++ [(request, headers)] } }
  /-- A response has no body. -/
  | answered {request : Nat} {status : Status} {headers : Headers} (hopen : c.isOpen = true) :
      Acts c (.head request status headers) { channel := c, next := (sequel status).task? }
  /-- A response comes when the channel has closed. -/
  | ignored {request : Nat} {status : Status} {headers : Headers} (hclosed : c.isOpen = false) :
      Acts c (.head request status headers) { channel := c }
  /-- The body of a response is dealt with. -/
  | read {request : Nat} {content : Except IoError Bytes} {d : Channel σ} {sequel : Sequel}
      (hcounts : d.counts = c.counts) (hcloser : d.closer = c.closer)
      (hpending : d.pending = c.pending.filter (·.1 ≠ request))
      (hforwarder : d.forwarder = c.forwarder ∨ ∃ headers, (request, headers) ∈ c.pending) :
      Acts c (.body request content) { channel := d, next := sequel.task? }

theorem closer_receive (m : Message) (c : Channel σ) : (c.receive m).2.closer = c.closer := by
  rw [receive]
  split <;> rfl

theorem closer_takeBody (request : Nat) (content : Except IoError Bytes) (c : Channel σ) :
    (c.takeBody request content).1.closer = c.closer := by
  rw [takeBody]
  split
  · rfl
  · dsimp only
    split
    · rfl
    · split
      · rfl
      · split
        · rename_i heq
          exact congrArg (·.2.closer) heq ▸ closer_receive _ _
        · rename_i heq
          exact congrArg (·.2.closer) heq ▸ closer_receive _ _

/-- Only a body whose head was taken is passed on. -/
theorem forwarder_takeBody (request : Nat) (content : Except IoError Bytes) (c : Channel σ) :
    (c.takeBody request content).1.forwarder = c.forwarder ∨
      ∃ headers, (request, headers) ∈ c.pending := by
  rw [takeBody]
  split
  · exact Or.inl rfl
  · rename_i headers hlookup
    exact Or.inr ⟨headers, mem_of_lookup hlookup⟩

/-- **What an access does**, whatever the channel and the task are. -/
theorem access_acts (c : Channel σ) (task : Task) : Acts c task (c.access task) := by
  cases task with
  | write data =>
    rw [access]
    split
    · rename_i hopen
      split
      · rename_i hdata
        exact hdata ▸ .empty hopen
      · rename_i hdata
        exact .accepted hopen hdata
    · rename_i hopen
      exact .refused (by simpa using hopen)
  | number data =>
    rw [access]
    cases hmake : Payload.make c.number.written data with
    | error e =>
      refine .spent ?_
      rw [Payload.make] at hmake
      split at hmake
      · cases hmake
      · rename_i hlarge
        exact Nat.le_of_lt_succ (Nat.lt_of_not_le fun hle => hlarge ⟨Nat.succ_pos _, hle⟩)
    | ok p =>
      obtain ⟨hsequence, rfl⟩ := Payload.make_eq_ok_iff.1 hmake
      exact .numbered hsequence
  | launch payload =>
    rw [access]
    split
    · exact .allowed ‹_›
    · rename_i hopen
      exact .dropped (by simpa using hopen)
  | start payload => exact .started
  | shut leaving =>
    rw [access]
    split
    · exact .closes ‹_›
    · rename_i hopen
      exact .late (by simpa using hopen)
  | signal leaving => exact .signals
  | disconnect => exact .tells
  | head request status headers =>
    rw [access]
    split
    · rename_i hopen
      by_cases hok : status = Status.ok
      · subst hok
        exact .taken hopen
      · rw [takeHead, if_neg hok]
        exact .answered hopen
    · rename_i hopen
      exact .ignored (by simpa using hopen)
  | body request content =>
    exact .read (counts_takeBody request content c) (closer_takeBody request content c)
      (pending_takeBody c request content) (forwarder_takeBody request content c)

/-- What an event can come to, for a channel with its tasks. -/
inductive Crowd.Steps (s : Crowd σ) : Crowd σ × List (Deed σ) → Prop where
  | idle : Steps s (s, [])
  /-- The device changes. -/
  | device (device : σ) :
      Steps s (⟨(s.channel.step (.device device)).1, s.tasks ++ [none]⟩, [])
  /-- A task begins. -/
  | begins {event : Channel.Event σ} {task : Task} (htask : event.task? = some task) :
      Steps s ({ s with tasks := s.tasks ++ [some task] }, [])
  /-- A task makes its next access. -/
  | turns {task : Task} {a : Access σ} {front back : List (Option Task)} (k : Nat)
      (htasks : s.tasks = front ++ some task :: back) (hacts : Acts s.channel task a) :
      Steps s (⟨a.channel, front ++ a.next :: back⟩, [⟨k, task, s.channel⟩])

theorem Crowd.step_steps (s : Crowd σ) (event : Event σ) : s.Steps (s.step event) := by
  cases event with
  | begin event =>
    rw [Crowd.step]
    cases htask : event.task? with
    | some task => exact .begins htask
    | none =>
      cases event with
      | device device => exact .device device
      | _ => cases htask
  | turn k =>
    rw [Crowd.step]
    split
    · rename_i task htask
      obtain ⟨hk, hget⟩ := List.getElem?_eq_some_iff.1 htask
      obtain ⟨front, back, hsplit, -, hset⟩ := List.exists_of_set hk
      dsimp only
      rw [hset]
      exact .turns k (hsplit.trans (by rw [hget])) (access_acts s.channel task)
    · exact .idle

end Channel
end Tunnel
end PollTunnel
