import PollTunnel.Proofs.Sessions.Ageing
import PollTunnel.Proofs.Sessions.Ending

/-!
# How long a session lives without requests

A session ends when no request was let in for the disconnect timeout.  The loop only looks whether
that is so when it acts anyway: before it reads, and before it waits for somebody who takes the
chunk that it holds.  Either wait may take the long-poll timeout, so a session may live for that
much longer, but not as long as both together.

As with the requests that wait, it is the next timer that the invariant speaks of, and not the time
(`Lapses.checked`): an open session looks again before the two timeouts have passed since its last
request.  To look, and to end the loop if it has been too long, is one step.  To close the queue is
another one.  A request that comes before both starts the period anew, and one that comes after both
is refused.  A request that comes between them is let in, and the session is over at once all the
same (`idle_expiry_overtaken`).

`IdleExpiry` is what this comes to at a moment.
-/

set_option autoImplicit false

namespace PollTunnel
namespace Tunnel
namespace Session

variable {σ : Type}

/-! ## The requests that start the period anew -/

/-- The request that an event makes a session let in, with the time. -/
def letIn? (s : Session σ) (now : Nat) : Event σ → Option (Nat × Nat)
  | .join number => if s.isOpen then some (number, now) else none
  | _ => none

/-- The requests that a session lets in, each with its time.  Neither their payloads nor what
becomes of them later makes a difference. -/
def admissions [Sink σ] (timeouts : Timeouts) (s : Session σ) :
    List (Nat × Event σ) → List (Nat × Nat)
  | [] => []
  | (now, event) :: rest =>
    (s.letIn? now event).toList ++ admissions timeouts (s.step timeouts now event).1 rest

theorem time_of_letIn? {s : Session σ} {now : Nat} {event : Event σ} {a : Nat × Nat}
    (h : s.letIn? now event = some a) : a.2 = now := by
  rw [letIn?.eq_def] at h
  split at h
  · split at h
    · rw [← Option.some.inj h]
    · cases h
  · cases h

theorem admissions_concat [Sink σ] (timeouts : Timeouts) (s : Session σ)
    (before : List (Nat × Event σ)) (now : Nat) (event : Event σ) :
    s.admissions timeouts (before ++ [(now, event)]) =
      s.admissions timeouts before ++ ((s.run timeouts before).1.letIn? now event).toList := by
  induction before generalizing s with
  | nil => exact List.append_nil _
  | cons e before ih =>
    rw [List.cons_append, admissions, admissions, ih, List.append_assoc]
    rfl

/-! ## The loop -/

/-- An outcome at a time, if the last request was let in at `last`. -/
structure Lapses (timeouts : Timeouts) (now : Nat) (last : Option Nat) (o : Outcome σ) :
    Prop where
  lastRequest : o.1.lastRequest = last
  /-- An open session looks again in time. -/
  checked : o.1.isOpen = true → ∀ t, last = some t →
    o.1.wakeBy < t + timeouts.disconnect.nanos + timeouts.longPoll.nanos
  /-- It ends for want of requests only when the period has passed. -/
  ended : ∀ limit elapsed, some (.disconnectTimeout limit elapsed) ∈ endings o.2 →
    limit = timeouts.disconnect ∧ ∃ t, last = some t ∧ t + timeouts.disconnect.nanos ≤ now ∧
      elapsed = .ofNanos (now - t)

variable {timeouts : Timeouts} {now : Nat} {s : Session σ}

theorem isIdle_iff : s.isIdle timeouts now = true ↔
    ∃ t, s.lastRequest = some t ∧ t + timeouts.disconnect.nanos ≤ now := by
  rw [isIdle]
  cases s.lastRequest with
  | none => simp
  | some t => simp

/-- The period has not passed when the loop goes on. -/
theorem lt_of_not_isIdle (h : ¬ s.isIdle timeouts now = true) {t : Nat}
    (ht : s.lastRequest = some t) : now < t + timeouts.disconnect.nanos :=
  Nat.lt_of_not_le fun hle => h (isIdle_iff.2 ⟨t, ht, hle⟩)

/-- The two timeouts have not passed since the last request. -/
def Timely (timeouts : Timeouts) (now : Nat) (s : Session σ) : Prop :=
  ∀ t, s.lastRequest = some t → now < t + timeouts.disconnect.nanos + timeouts.longPoll.nanos

/-- An end for another reason. -/
theorem lapses_finish (htimely : Timely timeouts now s) {cause : Option Error}
    (h : ∀ limit elapsed, cause ≠ some (.disconnectTimeout limit elapsed)) :
    Lapses timeouts now s.lastRequest (s.finish now cause) where
  lastRequest := rfl
  checked _ t ht := htimely t ht
  ended limit elapsed hmem := by
    rw [finish, endings_ended_cons, List.mem_cons] at hmem
    exact absurd (hmem.resolve_right List.not_mem_nil).symm (h limit elapsed)

theorem lapses_finish_of_isIdle (htimely : Timely timeouts now s)
    (h : s.isIdle timeouts now = true) :
    Lapses timeouts now s.lastRequest (s.finish now (some (s.idleError timeouts now))) where
  lastRequest := rfl
  checked _ t ht := htimely t ht
  ended limit elapsed hmem := by
    obtain ⟨t, ht, hle⟩ := isIdle_iff.1 h
    rw [finish, endings_ended_cons, List.mem_cons, idleError, ht] at hmem
    obtain ⟨rfl, rfl⟩ :=
      Error.disconnectTimeout.inj (Option.some.inj (hmem.resolve_right List.not_mem_nil))
    exact ⟨rfl, t, ht, hle, rfl⟩

theorem lapses_turn (htimely : Timely timeouts now s) :
    Lapses timeouts now s.lastRequest (s.turn timeouts now) := by
  rw [turn]
  split
  · exact lapses_finish htimely fun _ _ h => by cases h
  · split
    · rename_i hidle
      exact lapses_finish_of_isIdle htimely hidle
    · rename_i hidle
      refine ⟨rfl, fun _ t ht => ?_, fun limit elapsed hmem => ?_⟩
      · have := lt_of_not_isIdle hidle ht
        dsimp only
        omega
      · rw [endings_map_reply] at hmem
        exact absurd hmem List.not_mem_nil

/-- Replies that come before an outcome do not matter. -/
theorem Lapses.prepend {last : Option Nat} {o : Outcome σ} (h : Lapses timeouts now last o)
    (rs : List Reply) : Lapses timeouts now last (o.1, rs.map .reply ++ o.2) where
  lastRequest := h.lastRequest
  checked := h.checked
  ended limit elapsed hmem := by
    rw [endings_append, endings_map_reply, List.nil_append] at hmem
    exact h.ended limit elapsed hmem

theorem lapses_deliver (htimely : Timely timeouts now s) (chunk : Payload) :
    Lapses timeouts now s.lastRequest (s.deliver timeouts now chunk) := by
  have hpos := timeouts.longPoll_pos
  rw [deliver]
  split
  · rename_i rs left _
    have hleft : Timely timeouts now { s with waiting := left } := htimely
    exact (lapses_turn hleft).prepend rs
  · rename_i rs _
    have hnobody : Timely timeouts now { s with waiting := [] } := htimely
    dsimp only
    split
    · rename_i hidle
      exact (lapses_finish_of_isIdle hnobody hidle).prepend rs
    · rename_i hidle
      refine ⟨rfl, fun _ t ht => ?_, fun limit elapsed hmem => ?_⟩
      · have := lt_of_not_isIdle hidle ht
        dsimp only
        split <;> omega
      · rw [endings_map_reply] at hmem
        exact absurd hmem List.not_mem_nil

theorem lapses_read (htimely : Timely timeouts now s)
    (outcome : Except Payload.Error Source.Outcome) :
    Lapses timeouts now s.lastRequest (s.read timeouts now outcome) := by
  match outcome with
  | .error e => exact lapses_finish htimely fun _ _ h => by cases h
  | .ok .timedOut => exact lapses_turn htimely
  | .ok (.data data) =>
    have hcounted : Timely timeouts now { s with chunks := s.chunks + 1 } := htimely
    rw [read, receive]
    dsimp only
    split
    · exact lapses_finish hcounted fun _ _ h => by cases h
    · rename_i chunk _
      obtain ⟨hlast, hchecked, hended⟩ := lapses_deliver hcounted chunk
      exact ⟨hlast, hchecked, hended⟩

/-! ## All events -/

/-- An open session looks again before both timeouts have passed since the last request. -/
def Checked (timeouts : Timeouts) (s : Session σ) : Prop :=
  s.isOpen = true → ∀ t, s.lastRequest = some t →
    s.wakeBy < t + timeouts.disconnect.nanos + timeouts.longPoll.nanos

/-- As long as a session is open its timer bounds the time. -/
theorem Checked.timely (h : Checked timeouts s) (hwindow : InWindow timeouts now s)
    (hopen : s.isOpen = true) : Timely timeouts now s := fun t ht =>
  Nat.lt_of_le_of_lt (hwindow.due hopen) (h hopen t ht)

/-- An outcome that says nothing of an end, with a timer that is no later. -/
theorem Checked.lapses (h : Checked timeouts s) {o : Outcome σ}
    (hlast : o.1.lastRequest = s.lastRequest) (hopen : o.1.isOpen = true → s.isOpen = true)
    (hwakeBy : o.1.isOpen = true → o.1.wakeBy ≤ s.wakeBy) (hsilent : endings o.2 = []) :
    Lapses timeouts now s.lastRequest o where
  lastRequest := hlast
  checked hgoes t ht := Nat.lt_of_le_of_lt (hwakeBy hgoes) (h (hopen hgoes) t ht)
  ended _ _ hmem := absurd (hsilent ▸ hmem) List.not_mem_nil

/-- A request to close makes the loop look at once. -/
theorem Checked.lapses_close (h : Checked timeouts s) (hdue : s.isOpen = true → now ≤ s.wakeBy)
    {effects : List Effect} (hsilent : endings effects = []) :
    Lapses timeouts now s.lastRequest (s.close now, effects) := by
  refine h.lapses rfl id (fun hopen => ?_) hsilent
  have hopen : s.isOpen = true := hopen
  simpa [close, hopen] using hdue hopen

/-- A request that is let in starts the period anew, one that is refused does not. -/
theorem Checked.lapses_join (h : Checked timeouts s) (hwindow : InWindow timeouts now s)
    (number : Nat) :
    Lapses timeouts now (((s.letIn? now (.join number)).map (·.2)).or s.lastRequest)
      (s.join now number) := by
  have hnear := hwindow.near
  have hpos := timeouts.disconnect_pos
  have hpos' := timeouts.longPoll_pos
  rw [join, letIn?]
  dsimp only
  split
  · refine ⟨rfl, fun _ t ht => ?_, fun limit elapsed hmem => ?_⟩
    · obtain rfl : now = t := Option.some.inj ht
      dsimp only
      split <;> omega
    · rw [endings_map_reply] at hmem
      exact absurd hmem List.not_mem_nil
  · exact h.lapses rfl id (fun _ => Nat.le_refl _) rfl

variable [Sink σ]

/-- **An event keeps the period**: it ends the session when the period has passed, or leaves it with
a timer that is due in time. -/
theorem lapses_step (h : Checked timeouts s) (hwindow : InWindow timeouts now s)
    (event : Event σ) :
    Lapses timeouts now (((s.letIn? now event).map (·.2)).or s.lastRequest)
      (s.step timeouts now event) := by
  have hsame : Lapses timeouts now s.lastRequest (s, []) :=
    h.lapses rfl id (fun _ => Nat.le_refl _) rfl
  cases event
  case join number => exact h.lapses_join hwindow number
  all_goals
    simp only [step, letIn?, Option.map_none, Option.none_or]
  case leave number => exact h.lapses rfl id (fun _ => Nat.le_refl _) rfl
  case close => exact h.lapses_close hwindow.due rfl
  case forward p =>
    have hforward : Checked timeouts { s with forwarder := (s.forwarder.forward p).2 } := h
    simp only [forward]
    split
    · exact h.lapses rfl id (fun _ => Nat.le_refl _) rfl
    · exact hforward.lapses_close hwindow.due rfl
  case abandon p => exact h.lapses rfl id (fun _ => Nat.le_refl _) rfl
  case read outcome =>
    split
    · rename_i hreading
      exact lapses_read (h.timely hwindow (by rw [isOpen, hreading])) outcome
    · exact hsame
  case wake =>
    split
    · rename_i chunk hholding
      exact lapses_deliver (h.timely hwindow (by rw [isOpen, hholding])) chunk
    · exact hsame
  case notice =>
    split
    · rename_i hasked
      exact lapses_finish (h.timely hwindow (isOpen_of_isRunning hasked.2)) fun _ _ h => by cases h
    · exact hsame
  case release =>
    split
    · exact h.lapses rfl (fun hopen => by cases hopen) (fun hopen => by cases hopen)
        (endings_map_reply _)
    · exact hsame
  case shutDown =>
    split
    · exact h.lapses rfl (fun hopen => by cases hopen) (fun hopen => by cases hopen) rfl
    · exact hsame
  case device device => exact h.lapses rfl id (fun _ => Nat.le_refl _) rfl

/-! ## Every moment -/

variable {opened : Nat} {device : σ} {events : List (Nat × Event σ)}

theorem Moment.checked (h : Moment timeouts opened device events now s) : Checked timeouts s := by
  induction h with
  | start => exact fun _ _ ht => by cases ht
  | wait _ _ _ ih => exact ih
  | act h event ih =>
    have hlapses := lapses_step ih h.inWindow event
    intro hopen t ht
    exact hlapses.checked hopen t (hlapses.lastRequest.symm.trans ht)

/-- The session knows when it let in the last request. -/
theorem Moment.lastRequest_eq (h : Moment timeouts opened device events now s) :
    s.lastRequest =
      ((Session.start timeouts opened device).admissions timeouts events).getLast?.map (·.2) := by
  induction h with
  | start => rfl
  | wait _ _ _ ih => exact ih
  | @act events now s h event ih =>
    rw [(lapses_step h.checked h.inWindow event).lastRequest, admissions_concat, ← h.eq_run, ih,
      List.getLast?_append]
    cases s.letIn? now event <;> rfl

/-- Requests are let in one after another. -/
theorem Moment.le_lastRequest (h : Moment timeouts opened device events now s) :
    ∀ a ∈ (Session.start timeouts opened device).admissions timeouts events,
      ∃ t, s.lastRequest = some t ∧ a.2 ≤ t ∧ t ≤ now := by
  induction h with
  | start => exact fun a ha => absurd ha List.not_mem_nil
  | wait _ hle _ ih =>
    intro a ha
    obtain ⟨t, ht, hat, htnow⟩ := ih a ha
    exact ⟨t, ht, hat, Nat.le_trans htnow hle⟩
  | @act events now s h event ih =>
    intro a ha
    rw [(lapses_step h.checked h.inWindow event).lastRequest]
    rw [admissions_concat, ← h.eq_run, List.mem_append] at ha
    cases hletIn : s.letIn? now event with
    | none =>
      rw [hletIn] at ha
      exact ih a (ha.resolve_right List.not_mem_nil)
    | some b =>
      rw [hletIn] at ha
      have hb := time_of_letIn? hletIn
      refine ⟨now, by simp [hb], ?_, Nat.le_refl _⟩
      rcases ha with ha | ha
      · obtain ⟨t, -, hat, htnow⟩ := ih a ha
        exact Nat.le_trans hat htnow
      · obtain rfl := List.mem_singleton.1 ha
        exact Nat.le_of_eq hb

/-- After the end of the loop the queue can be closed at once. -/
theorem Moment.exists_over_of_ended (h : Moment timeouts opened device events now s)
    (hended : s.phase = .ended) {t : Nat} (ht : s.lastRequest = some t) :
    ∃ more later gone, Moment timeouts opened device (events ++ more) later gone ∧
      gone.isOpen = false ∧ later < t + timeouts.disconnect.nanos + timeouts.longPoll.nanos ∧
      ∀ e ∈ more, joined e.2 = [] := by
  have hopen : s.isOpen = true := s.isOpen_iff.2 (.inr hended)
  refine ⟨[(now, .release)], now, _, h.act .release, isOpen_release timeouts now hended,
    h.checked.timely h.inWindow hopen t ht, fun e he => ?_⟩
  rw [List.mem_singleton.1 he]
  rfl

/-- A session to which no request comes any more is over in time: nothing but its own loop has to
act. -/
theorem Moment.exists_over (h : Moment timeouts opened device events now s)
    (hopen : s.isOpen = true) {t : Nat} (ht : s.lastRequest = some t) :
    ∃ more later gone, Moment timeouts opened device (events ++ more) later gone ∧
      gone.isOpen = false ∧ later < t + timeouts.disconnect.nanos + timeouts.longPoll.nanos ∧
      ∀ e ∈ more, joined e.2 = [] := by
  obtain hruns | hended := s.isOpen_iff.1 hopen
  case inr => exact h.exists_over_of_ended hended ht
  -- Every timer lies behind the one before it, and none of them behind the bound.
  induction hn : t + timeouts.disconnect.nanos + timeouts.longPoll.nanos - s.wakeBy
    using Nat.strongRecOn generalizing events now s with
  | ind n ih =>
    have hbound := h.checked hopen t ht
    obtain ⟨event, hevent, hdue⟩ := exists_due timeouts s.wakeBy hruns
    have hfires : Moment timeouts opened device events s.wakeBy s :=
      h.wait (h.inWindow.due hopen) fun _ => Nat.le_refl _
    have hown : s.letIn? s.wakeBy event = none ∧ joined event = [] := by
      simp only [List.mem_cons, List.not_mem_nil, or_false] at hevent
      rcases hevent with rfl | rfl | rfl <;> exact ⟨rfl, rfl⟩
    have hlast := (lapses_step hfires.checked hfires.inWindow event).lastRequest
    rw [hown.1, Option.map_none, Option.none_or, ht] at hlast
    have hact := hfires.act event
    suffices hrest : ∃ more later gone,
        Moment timeouts opened device (events ++ [(s.wakeBy, event)] ++ more) later gone ∧
        gone.isOpen = false ∧ later < t + timeouts.disconnect.nanos + timeouts.longPoll.nanos ∧
        ∀ e ∈ more, joined e.2 = [] by
      obtain ⟨more, later, gone, hmoment, hover, hlt, hnone⟩ := hrest
      refine ⟨(s.wakeBy, event) :: more, later, gone, ?_, hover, hlt, ?_⟩
      · rwa [List.append_assoc] at hmoment
      · exact List.forall_mem_cons.2 ⟨hown.2, hnone⟩
    obtain ⟨cause, -, hends⟩ | ⟨hstays, -⟩ := step_ends_or_stays timeouts s.wakeBy s event
    · exact hact.exists_over_of_ended hends.phase hlast
    · have hgoes := hstays.trans hruns
      have hlater := hdue hgoes
      exact ih _ (by omega) hact (isOpen_of_isRunning hgoes) hlast hgoes rfl

/-! ## The result -/

/-- The requests that a session has let in since it was opened, each with its time. -/
def admitted (timeouts : Timeouts) (opened : Nat) (device : σ) (events : List (Nat × Event σ)) :
    List (Nat × Nat) :=
  (Session.start timeouts opened device).admissions timeouts events

/-- **How a session expires** that has such a past at such a time. -/
structure IdleExpiry (timeouts : Timeouts) (opened : Nat) (device : σ)
    (events : List (Nat × Event σ)) (now : Nat) (s : Session σ) : Prop where
  /-- Its loop ends for want of requests only when the period has passed since each request that it
  has let in, and it says for how long there was none. -/
  notEarly : ∀ event limit elapsed,
    .ended (some (.disconnectTimeout limit elapsed)) ∈ (s.step timeouts now event).2 →
      limit = timeouts.disconnect ∧
      (∃ a, (admitted timeouts opened device events).getLast? = some a ∧
        elapsed = .ofNanos (now - a.2)) ∧
      ∀ a ∈ admitted timeouts opened device events, a.2 + timeouts.disconnect.nanos ≤ now
  /-- Until then its queue is open, and it is closed by a step of its own. -/
  closes : ∀ event, s.isOpen = true → (s.step timeouts now event).1.isOpen = false →
    s.phase = .ended ∧ event = .release
  /-- It is not open any more when the long-poll timeout has passed after that. -/
  notLate : s.isOpen = true → ∀ a, (admitted timeouts opened device events).getLast? = some a →
    now < a.2 + timeouts.disconnect.nanos + timeouts.longPoll.nanos
  /-- Unless a request comes, its loop ends it by then. -/
  ends : s.isOpen = true → ∀ a, (admitted timeouts opened device events).getLast? = some a →
    ∃ more later gone, Moment timeouts opened device (events ++ more) later gone ∧
      gone.isOpen = false ∧
      later < a.2 + timeouts.disconnect.nanos + timeouts.longPoll.nanos ∧
      ∀ e ∈ more, joined e.2 = []
  /-- Every request that comes while it is open is let in, and the period starts anew. -/
  restarts : ∀ number, s.isOpen = true → (s.step timeouts now (.join number)).1.isOpen = true ∧
    ⟨number, now, true⟩ ∈ (s.step timeouts now (.join number)).1.waiting ∧
    admitted timeouts opened device (events ++ [(now, .join number)]) =
      admitted timeouts opened device events ++ [(number, now)]
  /-- But if its loop has ended before, it does not go on for this: the request is told that the
  session is over as soon as the queue is closed. -/
  overtaken : ∀ number, s.phase = .ended →
    let next := (s.step timeouts now (.join number)).1
    next.phase = .ended ∧ (next.step timeouts now .release).1.isOpen = false ∧
      .reply ⟨⟨number, now, true⟩, .status Status.gone⟩ ∈ (next.step timeouts now .release).2
  /-- A request that is refused changes nothing. -/
  refused : ∀ number, s.isOpen = false →
    s.step timeouts now (.join number) = (s, [.reply ⟨⟨number, now, true⟩, .status Status.gone⟩]) ∧
    admitted timeouts opened device (events ++ [(now, .join number)]) =
      admitted timeouts opened device events
  /-- A request that is malformed does not even reach a session. -/
  malformed : ∀ (server : Server σ) number request target e,
    Received.ofMessage request = .error e →
      (server.step (.arrive number request target)).1 = server
  /-- Whatever else happens, a payload that is passed on and one that is dropped included, has no
  part in this. -/
  others : ∀ event, joined event = [] → (s.step timeouts now event).1.lastRequest = s.lastRequest ∧
    admitted timeouts opened device (events ++ [(now, event)]) =
      admitted timeouts opened device events

/-- **A session lives for the disconnect timeout after its last request**, and not as long as that
and the long-poll timeout together, at every moment of every session. -/
theorem idle_expiry (h : Moment timeouts opened device events now s) :
    IdleExpiry timeouts opened device events now s := by
  have hlast : ∀ a, (admitted timeouts opened device events).getLast? = some a →
      s.lastRequest = some a.2 := fun a ha => by
    rw [h.lastRequest_eq, show Session.admissions _ _ _ = _ from rfl, ← admitted, ha]
    rfl
  have hconcat : ∀ event, admitted timeouts opened device (events ++ [(now, event)]) =
      admitted timeouts opened device events ++ (s.letIn? now event).toList := fun event => by
    rw [admitted, admissions_concat, ← h.eq_run, admitted]
  have hother : ∀ event, joined event = [] → s.letIn? now event = none := fun event hevent => by
    cases event with
    | join number => cases hevent
    | _ => rfl
  refine
    { notEarly := fun event limit elapsed hended => ?_
      closes := fun event => release_of_closes
      notLate := fun hopen a ha => ?_
      ends := fun hopen a ha => h.exists_over hopen (hlast a ha)
      restarts := fun number hopen => ⟨?_, ?_, ?_⟩
      overtaken := fun number hended => ?_
      refused := fun number hclosed =>
        ⟨step_join_of_not_isOpen timeouts now number s hclosed, ?_⟩
      malformed := fun server number request target e hmalformed => ?_
      others := fun event hevent => ⟨?_, ?_⟩ }
  · have hmem : some (.disconnectTimeout limit elapsed) ∈ endings (s.step timeouts now event).2 :=
      List.mem_filterMap.2 ⟨_, hended, rfl⟩
    obtain ⟨hlimit, t, ht, hle, helapsed⟩ := (lapses_step h.checked h.inWindow event).ended _ _ hmem
    have hquiet : s.lastRequest = some t := by
      cases hletIn : s.letIn? now event with
      | none => rwa [hletIn, Option.map_none, Option.none_or] at ht
      | some b =>
        -- a request that came just now would have kept the session open
        rw [hletIn, Option.map_some, Option.some_or, time_of_letIn? hletIn] at ht
        have hpos := timeouts.disconnect_pos
        have := Option.some.inj ht
        omega
    refine ⟨hlimit, ?_, fun a ha => ?_⟩
    · obtain ⟨a, ha, rfl⟩ := Option.map_eq_some_iff.1 (h.lastRequest_eq.symm.trans hquiet)
      exact ⟨a, ha, helapsed⟩
    · obtain ⟨last, hlast, hale, -⟩ := h.le_lastRequest a ha
      have := Option.some.inj (hquiet.symm.trans hlast)
      omega
  · exact Nat.lt_of_le_of_lt (h.inWindow.due hopen) (h.checked hopen a.2 (hlast a ha))
  · rw [step, join, if_pos hopen]
    exact hopen
  · rw [step, join, if_pos hopen]
    exact List.mem_append_right _ (List.mem_singleton_self _)
  · rw [hconcat, letIn?, if_pos hopen]
    rfl
  · have hlet : s.isOpen = true := s.isOpen_iff.2 (.inr hended)
    have hphase : (s.step timeouts now (.join number)).1.phase = .ended := by
      rw [step, join, if_pos hlet]
      exact hended
    refine ⟨hphase, isOpen_release timeouts now hphase, ?_⟩
    rw [step_release timeouts now hphase, step, join, if_pos hlet]
    refine List.mem_map.2 ⟨_, List.mem_map.2 ⟨⟨number, now, true⟩, ?_, rfl⟩, rfl⟩
    exact List.mem_append_right _ (List.mem_singleton_self _)
  · rw [hconcat, letIn?, if_neg (by simp [hclosed])]
    exact List.append_nil _
  · rw [Server.step, Server.arrive_of_malformed server number request target e hmalformed]
  · rw [(lapses_step h.checked h.inWindow event).lastRequest, hother event hevent]
    rfl
  · rw [hconcat, hother event hevent]
    exact List.append_nil _

/-- A request that is answered in vain, and a chunk that comes just before the period has passed. -/
def neglected : List (Nat × Event FaultySink) :=
  [(1, .join 7), (10000000000, .read (.ok .timedOut)), (20000000000, .read (.ok .timedOut)),
    (30000000000, .read (.ok (.data [104])))]

/-- The bound is the best one: with thirty seconds and ten, a session that holds a chunk may live
for all but a nanosecond of forty. -/
theorem idle_expiry_neglected :
    let s := ((Session.start .standard 0 ({} : FaultySink)).run .standard neglected).1
    let last := s.step .standard 40000000000 .wake
    Moment .standard 0 {} neglected 40000000000 s ∧
      IdleExpiry .standard 0 {} neglected 40000000000 s ∧
      admitted .standard 0 {} neglected = [(7, 1)] ∧ s.isOpen = true ∧
      s.held.map (·.data) = [[104]] ∧
      endings last.2 = [some (.disconnectTimeout (.ofSeconds 30) (.ofNanos 39999999999))] ∧
      (last.1.step .standard 40000000000 .release).1.isOpen = false := by
  intro s last
  have hjoined : Moment .standard 0 ({} : FaultySink) [(1, .join 7)] 1 _ :=
    .act (.wait .start (by decide) fun _ => by decide) (.join 7)
  have hlooked : Moment .standard 0 ({} : FaultySink)
      [(1, .join 7), (10000000000, .read (.ok .timedOut))] 10000000000 _ :=
    .act (.wait hjoined (by decide) fun _ => by decide) (.read (.ok .timedOut))
  have hanswered : Moment .standard 0 ({} : FaultySink) [(1, .join 7),
      (10000000000, .read (.ok .timedOut)), (20000000000, .read (.ok .timedOut))] 20000000000 _ :=
    .act (.wait hlooked (by decide) fun _ => by decide) (.read (.ok .timedOut))
  have hheld : Moment .standard 0 ({} : FaultySink) neglected 30000000000 s :=
    .act (.wait hanswered (by decide) fun _ => by decide) (.read (.ok (.data [104])))
  have hmoment : Moment .standard 0 ({} : FaultySink) neglected 40000000000 s :=
    .wait hheld (by decide) fun _ => by decide
  exact ⟨hmoment, idle_expiry hmoment, by decide +kernel, by decide +kernel, by decide +kernel,
    by decide +kernel, by decide +kernel⟩

/-- A request that comes when the loop has just found that there was none for too long. -/
def overtaken : List (Nat × Event FaultySink) :=
  [(0, .join 7), (10000000000, .read (.ok .timedOut)), (20000000000, .read (.ok .timedOut)),
    (30000000000, .read (.ok .timedOut)), (30000000000, .join 8), (30000000000, .release)]

/-- It is let in, and yet the session is over at the same moment, and it is told so: a session may
end for want of requests no time after the last one. -/
theorem idle_expiry_overtaken :
    let start := Session.start .standard 0 ({} : FaultySink)
    let s := (start.run .standard overtaken).1
    Moment .standard 0 {} overtaken 30000000000 s ∧
      admitted .standard 0 {} overtaken = [(7, 0), (8, 30000000000)] ∧
      s.lastRequest = some 30000000000 ∧ s.isOpen = false ∧
      endings (start.run .standard overtaken).2 =
        [some (.disconnectTimeout (.ofSeconds 30) (.ofSeconds 30))] ∧
      replies (start.run .standard overtaken).2 =
        [⟨⟨7, 0, true⟩, .status Status.noContent⟩,
          ⟨⟨8, 30000000000, true⟩, .status Status.gone⟩] := by
  intro start s
  have hjoined : Moment .standard 0 ({} : FaultySink) [(0, .join 7)] 0 _ := .act .start (.join 7)
  have hanswered : Moment .standard 0 ({} : FaultySink)
      [(0, .join 7), (10000000000, .read (.ok .timedOut))] 10000000000 _ :=
    .act (.wait hjoined (by decide) fun _ => by decide) (.read (.ok .timedOut))
  have hlooked : Moment .standard 0 ({} : FaultySink) [(0, .join 7),
      (10000000000, .read (.ok .timedOut)), (20000000000, .read (.ok .timedOut))] 20000000000 _ :=
    .act (.wait hanswered (by decide) fun _ => by decide) (.read (.ok .timedOut))
  have hmoment : Moment .standard 0 ({} : FaultySink) overtaken 30000000000 s :=
    (((Moment.wait hlooked (by decide) fun _ => by decide).act (.read (.ok .timedOut))).act
      (.join 8)).act .release
  exact ⟨hmoment, by decide +kernel, by decide +kernel, by decide +kernel, by decide +kernel,
    by decide +kernel⟩

end Session
end Tunnel
end PollTunnel
