import PollTunnel.Proofs.Handover.Runs
import PollTunnel.Proofs.Sessions.Moments

/-!
# How long requests wait

A request that nobody has data for is answered 204 when it has waited for the long-poll timeout.
The loop only looks for such requests in between reads, and a read may itself take that long, so a
request may wait for longer than the timeout.  It never waits for twice as long.

What keeps it is a relation between the requests and the next timer, not the time
(`InWindow.fresh`): every request that waits will have waited for less than twice the timeout when
the timer fires.  A turn sets the timer one timeout ahead and leaves only younger requests behind; a
request that comes later is younger still; and while the loop holds a chunk it acts as soon as a
request comes.  Under an ideal clock the timer is not late, and so neither is the answer.

`RequestsAge` is what this comes to at a moment, for whatever happens next.
-/

set_option autoImplicit false

namespace PollTunnel
namespace Tunnel

/-- The request of somebody who goes away keeps its place. -/
theorem Waiting.exists_of_mem_leave {q : Waiting} {number : Nat} {w : Waiter}
    (hw : w ∈ q.leave number) : ∃ older ∈ q, older.number = w.number ∧ older.since = w.since := by
  obtain ⟨older, holder, rfl⟩ := List.mem_map.1 hw
  exact ⟨older, holder, by split <;> exact ⟨rfl, rfl⟩⟩

theorem Waiting.sublist_of_handOver {p : Payload} {q left : Waiting} {rs : List Reply}
    (h : q.handOver p = (rs, some left)) : left.Sublist q := by
  have hconserves := Waiting.handOver_conserves p q
  rw [h] at hconserves
  exact hconserves ▸ List.sublist_append_right _ _

namespace Session

variable {σ : Type}

/-! ## The window -/

/-- Whoever waits will have waited for less than twice the timeout when the next timer fires. -/
structure InWindow (timeouts : Timeouts) (now : Nat) (s : Session σ) : Prop where
  fresh : ∀ w ∈ s.waiting, s.wakeBy < w.since + 2 * timeouts.longPoll.nanos
  /-- The timer is no more than one timeout ahead. -/
  near : s.wakeBy ≤ now + timeouts.longPoll.nanos
  /-- The timer is not late. -/
  due : s.isOpen = true → now ≤ s.wakeBy

variable {timeouts : Timeouts} {now : Nat} {s : Session σ}

/-- Nobody is new, and the timer is not later than it was. -/
theorem InWindow.of_le (h : InWindow timeouts now s) {next : Session σ}
    (hwaiting : ∀ w ∈ next.waiting, ∃ older ∈ s.waiting, older.since = w.since)
    (hwakeBy : next.wakeBy ≤ s.wakeBy) (hdue : next.isOpen = true → now ≤ next.wakeBy) :
    InWindow timeouts now next where
  fresh w hw := by
    obtain ⟨older, holder, hsince⟩ := hwaiting w hw
    have := h.fresh older holder
    omega
  near := Nat.le_trans hwakeBy h.near
  due := hdue

/-- Some of the requests are left, and the timer is as it was. -/
theorem InWindow.of_subset (h : InWindow timeouts now s) {next : Session σ}
    (hwaiting : next.waiting ⊆ s.waiting) (hwakeBy : next.wakeBy = s.wakeBy)
    (hopen : next.isOpen = true → s.isOpen = true) : InWindow timeouts now next :=
  h.of_le (fun w hw => ⟨w, hwaiting hw, rfl⟩) (Nat.le_of_eq hwakeBy) fun hnext =>
    hwakeBy ▸ h.due (hopen hnext)

/-- Who is answered 204 has waited for the timeout, and who is left is in the window. -/
structure Ages (timeouts : Timeouts) (now : Nat) (o : Outcome σ) : Prop where
  window : InWindow timeouts now o.1
  stale : ∀ r ∈ replies o.2, r.answer.statusCode = Status.noContent →
    r.waiter.since + timeouts.longPoll.nanos ≤ now

/-- Without an answer there is nothing but the window. -/
theorem InWindow.ages (h : InWindow timeouts now s) {effects : List Effect}
    (hnone : replies effects = []) : Ages timeouts now (s, effects) :=
  ⟨h, fun r hr => by simp [hnone] at hr⟩

/-! ## The loop -/

theorem ages_finish (h : InWindow timeouts now s) (hopen : s.isOpen = true)
    (cause : Option Error) : Ages timeouts now (s.finish now cause) where
  window :=
    { fresh := fun w hw => Nat.lt_of_le_of_lt (h.due hopen) (h.fresh w hw)
      near := Nat.le_add_right _ _
      due := fun _ => Nat.le_refl _ }
  stale _ hr := absurd hr List.not_mem_nil

theorem ages_turn (h : InWindow timeouts now s) (hopen : s.isOpen = true) :
    Ages timeouts now (s.turn timeouts now) := by
  rw [turn]
  split
  · exact ages_finish h hopen none
  · split
    · exact ages_finish h hopen _
    · refine ⟨⟨fun w hw => ?_, Nat.le_refl _, fun _ => Nat.le_add_right _ _⟩, fun r hr _ => ?_⟩
      · have hyoung : now < w.since + timeouts.longPoll.nanos := by
          simpa [Waiting.isStale] using (List.mem_filter.1 hw).2
        dsimp only
        omega
      · simp only [replies_map_reply, Waiting.sweep, Waiting.answerAll, List.mem_map] at hr
        obtain ⟨w, hw, rfl⟩ := hr
        simpa [Waiting.isStale] using (List.mem_filter.1 hw).2

/-- What is handed over before an outcome is not answered 204. -/
theorem Ages.prepend {o : Outcome σ} (h : Ages timeouts now o) {rs : List Reply}
    (hstatus : ∀ r ∈ rs, r.answer.statusCode = Status.ok) :
    Ages timeouts now (o.1, rs.map .reply ++ o.2) where
  window := h.window
  stale r hr hnone := by
    rw [replies_append, replies_map_reply, List.mem_append] at hr
    rcases hr with hr | hr
    · rw [hstatus r hr] at hnone
      cases hnone
    · exact h.stale r hr hnone

theorem ages_deliver (h : InWindow timeouts now s) (hopen : s.isOpen = true) (chunk : Payload) :
    Ages timeouts now (s.deliver timeouts now chunk) := by
  have hstatus := statusCode_handOver chunk s.waiting
  rw [deliver]
  split
  · rename_i rs left heq
    rw [heq] at hstatus
    have hleft : InWindow timeouts now { s with waiting := left } :=
      h.of_subset (Waiting.sublist_of_handOver heq).subset rfl id
    exact (ages_turn hleft hopen).prepend hstatus
  · rename_i rs heq
    rw [heq] at hstatus
    have hnone : InWindow timeouts now { s with waiting := [] } :=
      h.of_subset (List.nil_subset _) rfl id
    dsimp only
    split
    · exact (ages_finish hnone hopen _).prepend hstatus
    · have hheld : InWindow timeouts now { s with
          waiting := []
          phase := .holding chunk
          wakeBy := if s.closing then now else now + timeouts.longPoll.nanos } := by
        refine ⟨fun w hw => absurd hw List.not_mem_nil, ?_, fun _ => ?_⟩
        · dsimp only
          split <;> omega
        · dsimp only
          split <;> omega
      simpa using (hheld.ages replies_nil).prepend hstatus

theorem ages_receive (h : InWindow timeouts now s) (hopen : s.isOpen = true) (data : Bytes) :
    Ages timeouts now (s.receive timeouts now data) := by
  have hcounted : InWindow timeouts now { s with chunks := s.chunks + 1 } :=
    h.of_subset (List.Subset.refl _) rfl id
  rw [receive]
  dsimp only
  split
  · exact ages_finish hcounted hopen _
  · rename_i chunk _
    obtain ⟨hwindow, hstale⟩ := ages_deliver hcounted hopen chunk
    exact ⟨hwindow, hstale⟩

theorem ages_read (h : InWindow timeouts now s) (hopen : s.isOpen = true)
    (outcome : Except Payload.Error Source.Outcome) :
    Ages timeouts now (s.read timeouts now outcome) := by
  match outcome with
  | .error e => exact ages_finish h hopen _
  | .ok .timedOut => exact ages_turn h hopen
  | .ok (.data data) => exact ages_receive h hopen data

theorem ages_release (h : InWindow timeouts now s) : Ages timeouts now s.release where
  window := h.of_subset (List.nil_subset _) rfl (fun hopen => by cases hopen)
  stale r hr hstatus := by
    simp only [release, replies_map_reply, Waiting.release, Waiting.answerAll, List.mem_map] at hr
    obtain ⟨w, -, rfl⟩ := hr
    cases hstatus

/-! ## All events -/

theorem InWindow.close (h : InWindow timeouts now s) :
    InWindow timeouts now (s.close now) := by
  cases hopen : s.isOpen with
  | true =>
    refine h.of_le (fun w hw => ⟨w, hw, rfl⟩) ?_ fun _ => ?_
    · simpa [Session.close, hopen] using h.due hopen
    · simp [Session.close, hopen]
  | false =>
    exact h.of_subset (List.Subset.refl _) (by simp [Session.close, hopen]) id

/-- A request that comes is younger than all others. -/
theorem ages_join (h : InWindow timeouts now s) (number : Nat) :
    Ages timeouts now (s.join now number) := by
  have hpos := timeouts.longPoll_pos
  rw [join]
  dsimp only
  split
  · rename_i hopen
    have hdue := h.due hopen
    have hnear := h.near
    refine ⟨⟨fun w hw => ?_, ?_, fun _ => ?_⟩, fun r hr hstatus => ?_⟩
    · dsimp only at hw ⊢
      rcases List.mem_append.1 hw with hw | hw
      · have := h.fresh w (List.mem_of_mem_drop hw)
        split <;> omega
      · obtain rfl := List.mem_singleton.1 hw
        dsimp only
        split <;> omega
    · dsimp only
      split <;> omega
    · dsimp only
      split <;> omega
    · simp only [replies_map_reply, Waiting.join, Waiting.answerAll, List.mem_map] at hr
      obtain ⟨w, -, rfl⟩ := hr
      cases hstatus
  · refine ⟨h, fun r hr hstatus => ?_⟩
    obtain rfl := List.mem_singleton.1 hr
    cases hstatus

/-- **An event keeps the requests in the window.** -/
theorem ages_step [Sink σ] (h : InWindow timeouts now s) (event : Event σ) :
    Ages timeouts now (s.step timeouts now event) := by
  have hsame : Ages timeouts now (s, []) := h.ages rfl
  cases event
  case join number => exact ages_join h number
  all_goals simp only [step]
  case leave number =>
    refine InWindow.ages ?_ rfl
    refine h.of_le (fun w hw => ?_) (Nat.le_refl _) h.due
    obtain ⟨older, holder, -, hsince⟩ := Waiting.exists_of_mem_leave hw
    exact ⟨older, holder, hsince⟩
  case close => exact h.close.ages rfl
  case forward p =>
    have hforward : InWindow timeouts now { s with forwarder := (s.forwarder.forward p).2 } :=
      h.of_subset (List.Subset.refl _) rfl id
    simp only [forward]
    split
    · exact hforward.ages rfl
    · exact hforward.close.ages rfl
  case abandon p =>
    refine InWindow.ages ?_ rfl
    exact h.of_subset (List.Subset.refl _) rfl id
  case read outcome =>
    split
    · rename_i hreading
      exact ages_read h (by rw [isOpen, hreading]) outcome
    · exact hsame
  case wake =>
    split
    · rename_i hholding
      exact ages_deliver h (by rw [isOpen, hholding]) _
    · exact hsame
  case notice =>
    split
    · rename_i hclosing
      exact ages_finish h (isOpen_of_isRunning hclosing.2) none
    · exact hsame
  case release =>
    split
    · exact ages_release h
    · exact hsame
  case shutDown =>
    split
    · refine InWindow.ages ?_ rfl
      exact h.of_subset (List.Subset.refl _) rfl fun hopen => absurd hopen Bool.false_ne_true
    · exact hsame
  case device device =>
    refine InWindow.ages ?_ rfl
    exact h.of_subset (List.Subset.refl _) rfl id

/-! ## Every moment -/

variable [Sink σ] {opened : Nat} {device : σ} {events : List (Nat × Event σ)}

theorem Moment.inWindow (h : Moment timeouts opened device events now s) :
    InWindow timeouts now s := by
  induction h with
  | start => exact ⟨nofun, Nat.le_refl _, fun _ => Nat.le_add_right _ _⟩
  | wait _ hle hdue ih =>
    exact ⟨ih.fresh, Nat.le_trans ih.near (Nat.add_le_add_right hle _), hdue⟩
  | act _ event ih => exact (ages_step ih event).window

/-- Nobody waits for a session that is over. -/
theorem Moment.over (h : Moment timeouts opened device events now s) :
    s.isOpen = false → s.waiting = [] := by
  rw [h.eq_run]
  exact run_induction (P := fun s => s.isOpen = false → s.waiting = [])
    (fun x now event hx => over_step timeouts now hx event) (fun _ => rfl) events

/-- At no moment has a request waited for twice the timeout. -/
theorem Moment.lt_of_mem_waiting (h : Moment timeouts opened device events now s) {w : Waiter}
    (hw : w ∈ s.waiting) : now < w.since + 2 * timeouts.longPoll.nanos := by
  cases hopen : s.isOpen with
  | true => exact Nat.lt_of_le_of_lt (h.inWindow.due hopen) (h.inWindow.fresh w hw)
  | false => simp [h.over hopen] at hw

/-- A request that is answered 204 has waited until then. -/
theorem mem_waiting_of_noContent (hover : s.isOpen = false → s.waiting = []) {event : Event σ}
    {r : Reply} (hr : r ∈ replies (s.step timeouts now event).2)
    (hstatus : r.answer.statusCode = Status.noContent) : r.waiter ∈ s.waiting := by
  rcases step_cases timeouts now hover event with
    ⟨number, rfl, -, hreplies, -, -⟩ | ⟨number, rfl, -, heq⟩ | ⟨number, rfl, heq⟩ | ⟨-, hsettles⟩
  · rw [hreplies, Waiting.join, Waiting.answerAll, List.mem_map] at hr
    obtain ⟨w, -, rfl⟩ := hr
    cases hstatus
  · rw [heq] at hr
    obtain rfl := List.mem_singleton.1 hr
    cases hstatus
  · simp [heq] at hr
  · exact hsettles.conserves.subset (List.mem_append_left _ (List.mem_map_of_mem hr))

/-- A request that waits still does so after an event, or has been answered. -/
theorem waits_or_answered (hover : s.isOpen = false → s.waiting = []) (event : Event σ) {w : Waiter}
    (hw : w ∈ s.waiting) :
    (∃ left ∈ (s.step timeouts now event).1.waiting,
        left.number = w.number ∧ left.since = w.since) ∨
      ∃ r ∈ replies (s.step timeouts now event).2, r.waiter = w := by
  have hsplit : ∀ {o : Outcome σ}, w ∈ (replies o.2).map (·.waiter) ++ o.1.waiting →
      (∃ left ∈ o.1.waiting, left.number = w.number ∧ left.since = w.since) ∨
        ∃ r ∈ replies o.2, r.waiter = w := by
    intro o hmem
    rcases List.mem_append.1 hmem with hmem | hmem
    · exact Or.inr (List.mem_map.1 hmem)
    · exact Or.inl ⟨w, hmem, rfl, rfl⟩
  rcases step_cases timeouts now hover event with
    ⟨number, rfl, -, hreplies, hwaiting, -⟩ | ⟨number, rfl, -, heq⟩ | ⟨number, rfl, heq⟩ |
    ⟨-, hsettles⟩
  · apply hsplit
    rw [hreplies, hwaiting, Waiting.join_conserves]
    exact List.mem_append_left _ hw
  · exact Or.inl ⟨w, heq ▸ hw, rfl, rfl⟩
  · refine Or.inl ?_
    rw [heq]
    refine ⟨_, List.mem_map_of_mem hw, ?_⟩
    split <;> exact ⟨rfl, rfl⟩
  · exact hsplit (hsettles.conserves.symm.subset hw)

/-- **How requests age**, in a session with such a past at such a time. -/
structure RequestsAge (timeouts : Timeouts) (events : List (Nat × Event σ)) (now : Nat)
    (s : Session σ) : Prop where
  /-- Those who wait came in this order, at the times that they have. -/
  arrived : (s.waiting.map fun w => (w.number, w.since)).Sublist (arrivals events)
  /-- None of them has waited for twice the timeout. -/
  waits : ∀ w ∈ s.waiting, now < w.since + 2 * timeouts.longPoll.nanos
  /-- Only who has waited for the timeout is answered 204, and nobody who has waited for twice as
  long. -/
  answered : ∀ event, ∀ r ∈ replies (s.step timeouts now event).2,
    r.answer.statusCode = Status.noContent → r.waiter ∈ s.waiting ∧
      r.waiter.since + timeouts.longPoll.nanos ≤ now ∧
      now < r.waiter.since + 2 * timeouts.longPoll.nanos
  /-- Who is younger waits on, or has another answer. -/
  young : ∀ event, ∀ w ∈ s.waiting, now < w.since + timeouts.longPoll.nanos →
    (∃ left ∈ (s.step timeouts now event).1.waiting,
        left.number = w.number ∧ left.since = w.since) ∨
      ∃ r ∈ replies (s.step timeouts now event).2, r.waiter = w ∧
        r.answer.statusCode ≠ Status.noContent
  /-- Those who are left keep their order, and come before who is new. -/
  order : ∀ event,
    ((s.step timeouts now event).1.waiting.map fun w => (w.number, w.since)).Sublist
      (s.waiting.map (fun w => (w.number, w.since)) ++ (joined event).map (·, now))

/-- **A request waits for less than twice the long-poll timeout**, and is answered 204 no earlier
than after the timeout, at every moment of every session. -/
theorem requests_age (h : Moment timeouts opened device events now s) :
    RequestsAge timeouts events now s where
  arrived := h.eq_run ▸ order_run timeouts (Session.start timeouts opened device) events
  waits _ hw := h.lt_of_mem_waiting hw
  answered event r hr hstatus := by
    have hw := mem_waiting_of_noContent h.over hr hstatus
    exact ⟨hw, (ages_step h.inWindow event).stale r hr hstatus, h.lt_of_mem_waiting hw⟩
  young event w hw hyoung := by
    rcases waits_or_answered h.over event hw with hstays | ⟨r, hr, rfl⟩
    · exact Or.inl hstays
    · refine Or.inr ⟨r, hr, rfl, fun hstatus => ?_⟩
      have := (ages_step h.inWindow event).stale r hr hstatus
      omega
  order event := order_step timeouts now s event

/-- A request that comes right after the loop has looked, and is too young when it looks again. -/
def belated : List (Nat × Event FaultySink) :=
  [(1, .join 7), (10000000000, .read (.ok .timedOut))]

/-- The bound is the best one: with ten seconds, a request may wait for all but a nanosecond of
twenty. -/
theorem requests_age_belated :
    let s := ((Session.start .standard 0 ({} : FaultySink)).run .standard belated).1
    let last := s.step .standard 20000000000 (.read (.ok .timedOut))
    Moment .standard 0 {} belated 20000000000 s ∧ RequestsAge .standard belated 20000000000 s ∧
      s.waiting = [⟨7, 1, true⟩] ∧
      replies last.2 = [⟨⟨7, 1, true⟩, .status Status.noContent⟩] ∧ last.1.waiting = [] := by
  intro s last
  have hjoined : Moment .standard 0 ({} : FaultySink) [(1, .join 7)] 1 _ :=
    .act (.wait .start (by decide) fun _ => by decide) (.join 7)
  have hlooked : Moment .standard 0 ({} : FaultySink) belated 10000000000 s :=
    .act (.wait hjoined (by decide) fun _ => by decide) (.read (.ok .timedOut))
  have hmoment : Moment .standard 0 ({} : FaultySink) belated 20000000000 s :=
    .wait hlooked (by decide) fun _ => by decide
  exact ⟨hmoment, requests_age hmoment, by decide +kernel, by decide +kernel, by decide +kernel⟩

end Session
end Tunnel
end PollTunnel
