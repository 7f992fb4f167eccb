import PollTunnel.Proofs.Requests.Actions

/-!
# Sessions under an ideal clock

A session is told the time of every event, but not that time goes on.  A `Moment` is what is known
of a session that lives under an ideal clock: what has happened since it was opened, what time it
is, and the state that it is in.  Two things can happen at a moment.  Time passes, but for an open
session never beyond `Session.wakeBy`, since then a timer of the loop fires, or the queue is closed
after the loop; or there is an event, and it takes no time.

Any number of events may have the same time, in any order, and the loop may also act before it has
to.  So nothing is assumed of a run but that no timer is late.

That says nothing about a run in which the clock cannot go on.  There is no such run: the loop can
always do what it has to, and then the next timer lies in the future, or the loop has ended
(`exists_due`), and then the queue can be closed (`isOpen_release`).
-/

set_option autoImplicit false

namespace PollTunnel
namespace Tunnel
namespace Session

variable {σ : Type} [Sink σ]

/-- What has happened to a session since it was opened, the time, and the state of the session. -/
inductive Moment (timeouts : Timeouts) (opened : Nat) (device : σ) :
    List (Nat × Event σ) → Nat → Session σ → Prop
  | start : Moment timeouts opened device [] opened (.start timeouts opened device)
  /-- Time passes, and no timer is late. -/
  | wait {events : List (Nat × Event σ)} {now later : Nat} {s : Session σ}
    (h : Moment timeouts opened device events now s) (hle : now ≤ later)
    (hdue : s.isOpen = true → later ≤ s.wakeBy) : Moment timeouts opened device events later s
  /-- Something happens, which takes no time. -/
  | act {events : List (Nat × Event σ)} {now : Nat} {s : Session σ}
    (h : Moment timeouts opened device events now s) (event : Event σ) :
    Moment timeouts opened device (events ++ [(now, event)]) now (s.step timeouts now event).1

variable {timeouts : Timeouts} {opened now : Nat} {device : σ} {events : List (Nat × Event σ)}
  {s : Session σ}

/-- The session is in the state that its events have led to. -/
theorem Moment.eq_run (h : Moment timeouts opened device events now s) :
    s = ((Session.start timeouts opened device).run timeouts events).1 := by
  induction h with
  | start => rfl
  | wait _ _ _ ih => exact ih
  | act _ event ih =>
    rw [run_append, ← ih]
    rfl

omit [Sink σ] in
/-- After a turn the loop has ended, or the next timer lies in the future. -/
theorem lt_wakeBy_turn (timeouts : Timeouts) (now : Nat) (s : Session σ)
    (hruns : (s.turn timeouts now).1.isRunning = true) :
    now < (s.turn timeouts now).1.wakeBy := by
  have := timeouts.longPoll_pos
  rw [turn] at hruns ⊢
  split at hruns
  · cases hruns
  · split at hruns
    · cases hruns
    · simp_all

/-- **The loop never holds up the clock.**  One of its own events ends it, or sets a timer in the
future. -/
theorem exists_due (timeouts : Timeouts) (now : Nat) (h : s.isRunning = true) :
    ∃ event ∈ [Event.notice, .read (.ok .timedOut), .wake],
      (s.step timeouts now event).1.isRunning = true →
        now < (s.step timeouts now event).1.wakeBy := by
  cases hclosing : s.closing with
  | true => exact ⟨.notice, by simp, by simp [step, hclosing, h, isRunning_finish]⟩
  | false =>
    cases hphase : s.phase with
    | reading =>
      refine ⟨.read (.ok .timedOut), by simp, ?_⟩
      simpa [step, hphase, read] using lt_wakeBy_turn timeouts now s
    | holding chunk =>
      refine ⟨.wake, by simp, ?_⟩
      have := timeouts.longPoll_pos
      simp only [step, hphase, deliver]
      split
      · exact lt_wakeBy_turn timeouts now _
      · split
        · simp [isRunning_finish]
        · simp_all
    | ended | closed | shutDown => simp [isRunning, hphase] at h

/-- Nothing keeps the queue from being closed after that. -/
theorem isOpen_release (timeouts : Timeouts) (now : Nat) (h : s.phase = .ended) :
    (s.step timeouts now .release).1.isOpen = false := by
  rw [step, if_pos h]
  rfl

end Session
end Tunnel
end PollTunnel
