import PollTunnel.Proofs.Sessions.Ending
import PollTunnel.Proofs.Sessions.Tallies

/-!
# From the end of a session until it leaves its place

The loop of a session ends once (`ended_run`).  Those who wait do so until the queue is closed, and
are then told that the session is over (`step_release`).  After that the target is told that nothing
more will come, as soon as nobody writes on the connection (`step_shutDown`), and only then the
session leaves its place, if it is the one in place (`cleared_step`).

These are steps of its own, with which other events may come in between; `left_run` says that once
they were taken the session has left its place, and was counted out once.  `hungUp_of_shutDown`
looks back: no session is marked as shut down whose target was not told.
-/

set_option autoImplicit false

namespace PollTunnel
namespace Tunnel

namespace Session

variable {σ : Type} [Sink σ]

/-- A connection is shut down after the queue was closed, and by nothing else. -/
theorem phase_step (timeouts : Timeouts) (now : Nat) (s : Session σ) (event : Event σ) :
    (s.step timeouts now event).1.phase = .shutDown ↔
      s.phase = .shutDown ∨ s.phase = .closed ∧ event = .shutDown := by
  by_cases hruns : s.isRunning = true
  · have hphase : s.phase ≠ .shutDown ∧ s.phase ≠ .closed :=
      ⟨fun heq => by simp [isRunning, heq] at hruns, fun heq => by simp [isRunning, heq] at hruns⟩
    have hafter : (s.step timeouts now event).1.phase ≠ .shutDown := by
      intro heq
      obtain ⟨cause, -, hends⟩ | ⟨hstays, -⟩ := step_ends_or_stays timeouts now s event
      · rw [hends.phase] at heq
        cases heq
      · rw [hruns, isRunning, heq] at hstays
        cases hstays
    simp [hafter, hphase]
  · rw [Bool.not_eq_true] at hruns
    rw [phase_step_of_not_isRunning timeouts now hruns event]
    cases event with
    | release =>
      dsimp only
      split <;> simp_all
    | shutDown =>
      dsimp only
      split <;> simp_all
    | _ => simp

/-- The session once its target was told that nothing more will come.  Nothing else is different. -/
def hungUp (x : Session σ) : Session σ :=
  { x with
    phase := .shutDown
    forwarder := { x.forwarder with outlet := { x.forwarder.outlet with
      device := (Sink.shutdown x.forwarder.outlet.device).2 } } }

/-- To shut a connection down is to tell its target. -/
theorem step_shutDown_of_closed (timeouts : Timeouts) (now : Nat) {x : Session σ}
    (hclosed : x.phase = .closed) : x.step timeouts now .shutDown = (x.hungUp, []) := by
  rw [step, if_pos hclosed]
  rfl

end Session

namespace Server

variable {σ : Type}

/-! ## A session ends once -/

/-- The ends of one session. -/
def endings (k : Nat) (effects : List Effect) : List (Option Error) :=
  effects.filterMap fun
    | .ended j cause => if j = k then some cause else none
    | _ => none

@[simp] theorem endings_append (k : Nat) (a b : List Effect) :
    endings k (a ++ b) = endings k a ++ endings k b :=
  List.filterMap_append

theorem endings_ended_cons (k j : Nat) (cause : Option Error) (effects : List Effect) :
    endings k (.ended j cause :: effects) =
      if j = k then cause :: endings k effects else endings k effects := by
  by_cases hj : j = k <;> simp [endings, hj]

/-- The loop of a session has ended; that of one that was not opened has not. -/
def hasEnded (s : Server σ) (k : Nat) : Bool := s.sessions[k]?.any fun x => !x.isRunning

/-- A session is over: it lets nobody in any more. -/
def isOver (s : Server σ) (k : Nat) : Bool := s.sessions[k]?.any fun x => !x.isOpen

theorem hasEnded_of_getElem? {s : Server σ} {k : Nat} {x : Session σ}
    (h : s.sessions[k]? = some x) : s.hasEnded k = !x.isRunning := by
  rw [hasEnded, h]
  rfl

theorem hasEnded_iff {s : Server σ} {k : Nat} :
    s.hasEnded k = true ↔ ∃ x, s.sessions[k]? = some x ∧ x.isRunning = false := by
  simp [hasEnded, Option.any_eq_true]

theorem isOver_iff {s : Server σ} {k : Nat} :
    s.isOver k = true ↔ ∃ x, s.sessions[k]? = some x ∧ x.isOpen = false := by
  simp [isOver, Option.any_eq_true]

theorem endings_effectOf (j k : Nat) (effects : List Session.Effect) :
    endings k (effects.filterMap (effectOf? j)) =
      if j = k then Session.endings effects else [] := by
  induction effects with
  | nil => simp [endings, Session.endings]
  | cons effect effects ih =>
    cases effect with
    | reply r => exact ih
    | passed direction p => exact ih
    | ended cause =>
      rw [Session.endings_ended_cons, List.filterMap_cons_some
        (show effectOf? j (.ended cause) = some (.ended j cause) from rfl), endings_ended_cons, ih]
      by_cases hj : j = k <;> simp [hj]

theorem endings_remark (s : Server σ) (k : Nat) (event : Event σ) :
    endings k (s.remark event) = [] := by
  cases event with
  | arrive number request target =>
    simp only [remark, arrive]
    cases Received.ofMessage request with
    | error e => rfl
    | ok received => cases s.current <;> cases target <;> rfl
  | clear k =>
    simp only [remark, clear]
    split
    · rfl
    · split <;> rfl
  | _ => rfl

variable [Sink σ]

/-- A session that is not there does nothing. -/
theorem react_of_none {s : Server σ} {event : Event σ} {k : Nat} {action : Session.Event σ}
    (hx : s.sessions[k]? = none) (h : s.action? event = some (k, action)) :
    (s.react event).2 = [] := by
  have hgone : (s.departed (s.departing? event)).sessions[k]? = none := by
    rw [List.getElem?_eq_none_iff, length_sessions_departed]
    exact List.getElem?_eq_none_iff.1 hx
  simp only [react, h, act_of_none _ k action hgone]

theorem endings_react_of_others {s : Server σ} {event : Event σ} {k : Nat}
    (h : ∀ action, s.action? event ≠ some (k, action)) : endings k (s.react event).2 = [] := by
  rw [react]
  cases haction : s.action? event with
  | none => rfl
  | some action =>
    obtain ⟨j, action⟩ := action
    have hj : j ≠ k := by
      rintro rfl
      exact h action haction
    dsimp only
    rw [act]
    split
    · rfl
    · rw [endings_effectOf, if_neg hj]

theorem endings_step (s : Server σ) (event : Event σ) (k : Nat) :
    endings k (s.step event).2 = endings k (s.react event).2 := by
  rw [(step_reacts s event).2, endings_append, endings_remark, List.append_nil]

theorem endings_step_of_none {s : Server σ} {k : Nat} (hx : s.sessions[k]? = none)
    (event : Event σ) : endings k (s.step event).2 = [] := by
  rw [endings_step]
  by_cases hother : ∀ action, s.action? event ≠ some (k, action)
  · exact endings_react_of_others hother
  · obtain ⟨action, haction⟩ : ∃ action, s.action? event = some (k, action) := by simpa using hother
    rw [react_of_none hx haction]
    rfl

/-- What a session does at an event, if it acts: then its end is that of its step. -/
theorem session_endings_cases {s : Server σ} {k : Nat} {x : Session σ}
    (h : s.sessions[k]? = some x) (event : Event σ) :
    ∃ q, (s.departed (s.departing? event)).sessions[k]? = some { x with waiting := q } ∧
      (((∀ action, s.action? event ≠ some (k, action)) ∧ endings k (s.step event).2 = [] ∧
          (s.step event).1.sessions[k]? = some { x with waiting := q }) ∨
        ∃ action, s.action? event = some (k, action) ∧
          endings k (s.step event).2 =
            Session.endings (Session.step s.timeouts s.clock { x with waiting := q } action).2 ∧
          (s.step event).1.sessions[k]? =
            some (Session.step s.timeouts s.clock { x with waiting := q } action).1) := by
  obtain ⟨q, hq, hcases⟩ := session_step_cases h event
  refine ⟨q, hq, ?_⟩
  rw [endings_step]
  obtain ⟨hother, hstep⟩ | ⟨action, haction, hstep⟩ := hcases
  · exact .inl ⟨hother, endings_react_of_others hother, hstep⟩
  · refine .inr ⟨action, haction, ?_, hstep⟩
    rw [react, haction]
    dsimp only
    rw [act_of_some _ k action hq, endings_effectOf, if_pos rfl, timeouts_departed, clock_departed]

/-- The loop of a session that is new has not ended. -/
theorem not_hasEnded_of_new {s : Server σ} {k : Nat} (h : s.sessions[k]? = none) (event : Event σ) :
    (s.step event).1.hasEnded k = false := by
  rw [hasEnded]
  cases hy : (s.step event).1.sessions[k]? with
  | none => rfl
  | some y =>
    obtain ⟨device, rfl⟩ := eq_start_of_new h hy
    rfl

/-- **A loop that ends ran until then, and has ended from then on.** -/
theorem ended_step (s : Server σ) (event : Event σ) (k : Nat) :
    (endings k (s.step event).2).length + (s.hasEnded k).toNat =
      ((s.step event).1.hasEnded k).toNat := by
  cases hx : s.sessions[k]? with
  | none =>
    have hnone : s.hasEnded k = false := by simp [hasEnded, hx]
    rw [hnone, not_hasEnded_of_new hx event, endings_step_of_none hx]
    rfl
  | some x =>
    rw [hasEnded_of_getElem? hx]
    obtain ⟨q, -, ⟨-, hsilent, hy⟩ | ⟨action, -, hends, hy⟩⟩ := session_endings_cases hx event
    · rw [hsilent, hasEnded_of_getElem? hy]
      exact Nat.zero_add _
    · rw [hends, hasEnded_of_getElem? hy]
      obtain ⟨cause, hruns, hend⟩ | ⟨hstays, hsilent⟩ :=
        Session.step_ends_or_stays s.timeouts s.clock { x with waiting := q } action
      · rw [hend.endings, hend.isRunning, show x.isRunning = true from hruns]
        rfl
      · rw [hsilent, hstays]
        exact Nat.zero_add _

/-- **A session ends once.** -/
theorem ended_run (s : Server σ) (events : List (Event σ)) (k : Nat) :
    (endings k (s.run events).2).length + (s.hasEnded k).toNat =
      ((s.run events).1.hasEnded k).toNat := by
  induction events generalizing s with
  | nil => exact Nat.zero_add _
  | cons event rest ih =>
    have hstep := ended_step s event k
    have hrest := ih (s.step event).1
    rw [run_cons, endings_append, List.length_append]
    dsimp only
    omega

/-! ## What the end means to those who wait -/

/-- An outcome is the end of the loop of a session. -/
structure Ends (s : Server σ) (k : Nat) (cause : Option Error) (o : Outcome σ) : Prop where
  /-- It ran until now. -/
  running : ∃ x, s.sessions[k]? = some x ∧ x.isRunning = true
  /-- It has ended, and the queue is not closed yet. -/
  ended : ∃ y, o.1.sessions[k]? = some y ∧ y.phase = .ended
  /-- The session keeps its place for now, and is counted. -/
  place : o.1.current = s.current
  gauge : o.1.gauge = s.gauge
  /-- Whoever waits does so still, but for those who are served by the same event.  Of these only
  the last may be there. -/
  answered : ∃ handed : List Reply, s.queue k = handed.map (·.waiter) ++ o.1.queue k ∧
    (∀ r ∈ handed, ∃ chunk, r.answer = .payload chunk) ∧
    (∀ r ∈ handed.dropLast, r.waiter.present = false) ∧
    o.2 = handed.map (fun r => .answer r.waiter.number r.answer r.waiter.present) ++
      [.ended k cause]

omit [Sink σ] in
theorem filterMap_seen (k : Nat) (effects : List Session.Effect) :
    (Session.seen effects).filterMap (effectOf? k) = effects.filterMap (effectOf? k) := by
  induction effects with
  | nil => rfl
  | cons effect effects ih =>
    cases effect with
    | passed direction p => exact ih
    | reply r => exact congrArg (.answer r.waiter.number r.answer r.waiter.present :: ·) ih
    | ended cause => exact congrArg (.ended k cause :: ·) ih

omit [Sink σ] in
theorem filterMap_map_reply (k : Nat) (rs : List Reply) :
    (rs.map Session.Effect.reply).filterMap (effectOf? k) =
      rs.map fun r => .answer r.waiter.number r.answer r.waiter.present := by
  rw [List.filterMap_map]
  exact congrFun List.filterMap_eq_map' rs

omit [Sink σ] in
/-- What is seen of the end of a loop. -/
theorem filterMap_of_ends {offered : List Payload} {q : Waiting} {cause : Option Error}
    {o : Session.Outcome σ} (h : Session.Ends offered q cause o) (k : Nat) :
    ∃ handed : List Reply, q = handed.map (·.waiter) ++ o.1.waiting ∧
      (∀ r ∈ handed, ∃ chunk ∈ offered, r.answer = .payload chunk) ∧
      (∀ r ∈ handed.dropLast, r.waiter.present = false) ∧
      o.2.filterMap (effectOf? k) =
        handed.map (fun r => .answer r.waiter.number r.answer r.waiter.present) ++
          [.ended k cause] := by
  obtain ⟨handed, hq, hchunk, hgone, hseen⟩ := h.answered
  refine ⟨handed, hq, hchunk, hgone, ?_⟩
  rw [← filterMap_seen, hseen, List.filterMap_append, filterMap_map_reply]
  rfl

omit [Sink σ] in
/-- Only one who gives a payload up goes away while a session acts. -/
theorem departing?_of_action? {s : Server σ} {event : Event σ} {k : Nat}
    {action : Session.Event σ} (h : s.action? event = some (k, action))
    (hkept : ∀ p, action ≠ .abandon p) : s.departing? event = none := by
  cases event with
  | abandon number =>
    obtain ⟨visit, -, heq⟩ := Option.bind_eq_some_iff.1 h
    cases hreceived : visit.received with
    | noPayload => rw [hreceived] at heq; cases heq
    | payload p =>
      rw [hreceived] at heq
      cases heq
      exact absurd rfl (hkept p)
  | leave number => cases h
  | _ => rfl

omit [Sink σ] in
theorem remark_of_action? {s : Server σ} {event : Event σ} {k : Nat} {action : Session.Event σ}
    (h : s.action? event = some (k, action)) : s.remark event = [] := by
  cases event with
  | arrive number request target => cases h
  | clear k => cases h
  | _ => rfl

/-- A session whose loop ends took a step that is the end of it. -/
theorem exists_action_of_ended {s : Server σ} {event : Event σ} {k : Nat} {cause : Option Error}
    (h : .ended k cause ∈ (s.step event).2) :
    ∃ x action, s.sessions[k]? = some x ∧ x.isRunning = true ∧ s.action? event = some (k, action) ∧
      Session.Ends (x.offered action) x.waiting cause (x.step s.timeouts s.clock action) ∧
      (s.step event).1.sessions[k]? = some (x.step s.timeouts s.clock action).1 ∧
      (s.step event).2 =
        (x.step s.timeouts s.clock action).2.filterMap (effectOf? k) := by
  have hmem : cause ∈ endings k (s.step event).2 := List.mem_filterMap.2 ⟨_, h, if_pos rfl⟩
  cases hx : s.sessions[k]? with
  | none =>
    rw [endings_step_of_none hx] at hmem
    exact absurd hmem List.not_mem_nil
  | some x =>
    obtain ⟨q, hq, ⟨-, hsilent, -⟩ | ⟨action, haction, hends, hy⟩⟩ := session_endings_cases hx event
    · rw [hsilent] at hmem
      exact absurd hmem List.not_mem_nil
    rw [hends] at hmem
    obtain ⟨cause', hruns, hend⟩ | ⟨-, hsilent⟩ :=
      Session.step_ends_or_stays s.timeouts s.clock { x with waiting := q } action
    · rw [hend.endings] at hmem
      obtain rfl := List.mem_singleton.1 hmem
      have hkept : ∀ p, action ≠ .abandon p := by
        rintro p rfl
        have hendings := hend.endings
        cases hendings
      -- nobody goes away at this event, so the queue is the one that there was
      have hnobody := departing?_of_action? haction hkept
      rw [hnobody] at hq
      have hsame : { x with waiting := q } = x := Option.some.inj (hq.symm.trans hx)
      rw [hsame] at hruns hend hy
      refine ⟨x, action, rfl, hruns, haction, hend, hy, ?_⟩
      rw [(step_reacts s event).2, remark_of_action? haction, List.append_nil, react, haction]
      dsimp only
      rw [hnobody, departed, act_of_some s k action hx]
    · rw [hsilent] at hmem
      exact absurd hmem List.not_mem_nil

theorem current_of_ended {s : Server σ} {event : Event σ} {k : Nat} {cause : Option Error}
    (h : .ended k cause ∈ (s.step event).2) : (s.step event).1.current = s.current := by
  obtain ⟨hcurrent, -⟩ | ⟨_, -, -, -, heffects, -⟩ | ⟨-, -, heffects, -⟩ :=
    current_step_cases s event
  · exact hcurrent
  · rw [heffects] at h
    cases List.mem_singleton.1 h
  · rw [heffects] at h
    cases List.mem_singleton.1 h

/-- **Whatever ends the loop of a session**, those who wait for it wait on or are served. -/
theorem ends_of_mem {s : Server σ} {event : Event σ} {k : Nat} {cause : Option Error}
    (h : .ended k cause ∈ (s.step event).2) : s.Ends k cause (s.step event) := by
  obtain ⟨x, action, hx, hruns, haction, hend, hy, heffects⟩ := exists_action_of_ended h
  obtain ⟨handed, hqueue, hchunk, hgone, hseen⟩ := filterMap_of_ends hend k
  refine
    { running := ⟨x, hx, hruns⟩
      ended := ⟨_, hy, hend.phase⟩
      place := current_of_ended h
      gauge := ?_
      answered := ⟨handed, ?_, ?_, hgone, heffects.trans hseen⟩ }
  · rw [gauge_step, remark_of_action? haction]
    simp [openings, clearances]
  · rw [queue_of_getElem? hx, queue_of_getElem? hy]
    exact hqueue
  · intro r hr
    obtain ⟨chunk, -, hanswer⟩ := hchunk r hr
    exact ⟨chunk, hanswer⟩

/-! ## The queue is closed -/

/-- Requests are told that their session is over. -/
def released (q : Waiting) : List Effect :=
  q.map fun w => .answer w.number (.status Status.gone) w.present

/-- **Whoever waits when the queue of a session is closed is told that the session is over.**  That
is all that happens then. -/
theorem step_release {s : Server σ} {k : Nat} {x : Session σ} (hx : s.sessions[k]? = some x)
    (hended : x.phase = .ended) :
    s.step (.release k) =
      ({ s with sessions := s.sessions.set k { x with phase := .closed, waiting := [] } },
        released (s.queue k)) := by
  have hreleased : (x.waiting.release.map Session.Effect.reply).filterMap (effectOf? k) =
      released x.waiting := by
    rw [filterMap_map_reply, Waiting.release, Waiting.answerAll, List.map_map]
    rfl
  have hcount : ∀ rs : List Reply, count s.metrics (rs.map .reply) = s.metrics := by
    intro rs
    induction rs with
    | nil => rfl
    | cons r rs ih => exact ih
  rw [step, act_of_some s k _ hx, Session.step_release _ _ hended, queue_of_getElem? hx]
  exact Prod.ext (congrArg (fun metrics => { s with
    sessions := s.sessions.set k { x with phase := .closed, waiting := [] }
    metrics }) (hcount _)) hreleased

/-! ## Reasons to end -/

/-- An event that ends the loop of a session, and what it ends with. -/
inductive Reason (s : Server σ) (k : Nat) (x : Session σ) : Event σ → Option Error → Prop where
  /-- A read fails, or the target has nothing more to say. -/
  | failure (reading : x.phase = .reading) (e : Payload.Error) :
      Reason s k x (.read k (.error e)) (some (.payload e))
  /-- No request came for too long, and the target is silent. -/
  | idle (reading : x.phase = .reading) (unasked : x.closing = false)
      (idle : x.isIdle s.timeouts s.clock = true) :
      Reason s k x (.read k (.ok .timedOut)) (some (x.idleError s.timeouts s.clock))
  /-- No request came for too long, and a chunk is held that nobody takes. -/
  | idleHolding (chunk : Payload) (holding : x.phase = .holding chunk) (nobody : x.waiting = [])
      (idle : x.isIdle s.timeouts s.clock = true) :
      Reason s k x (.wake k) (some (x.idleError s.timeouts s.clock))
  /-- It was asked to close. -/
  | asked (asked : x.closing = true) (running : x.isRunning = true) : Reason s k x (.notice k) none

omit [Sink σ] in
/-- If no chunk is offered, everybody waits on. -/
theorem filterMap_of_ends_nil {q : Waiting} {cause : Option Error} {o : Session.Outcome σ}
    (h : Session.Ends [] q cause o) (k : Nat) :
    o.1.waiting = q ∧ o.2.filterMap (effectOf? k) = [.ended k cause] := by
  obtain ⟨handed, hq, hchunk, -, heffects⟩ := filterMap_of_ends h k
  obtain rfl : handed = [] := List.eq_nil_iff_forall_not_mem.2 fun r hr => by
    obtain ⟨_, hmem, -⟩ := hchunk r hr
    exact absurd hmem List.not_mem_nil
  exact ⟨hq.symm, heffects⟩

/-- **Every reason ends the loop.** -/
theorem step_of_reason {s : Server σ} {k : Nat} {x : Session σ} (hx : s.sessions[k]? = some x)
    {event : Event σ} {cause : Option Error} (h : s.Reason k x event cause) :
    (s.step event).1.queue k = s.queue k ∧ (s.step event).2 = [.ended k cause] := by
  have hact : ∀ action, Session.Ends [] x.waiting cause (x.step s.timeouts s.clock action) →
      (s.act k action).1.queue k = s.queue k ∧ (s.act k action).2 = [.ended k cause] := by
    intro action hends
    obtain ⟨hwaiting, heffects⟩ := filterMap_of_ends_nil hends k
    rw [queue_act, if_pos rfl, queue_of_getElem? hx, hx, act_of_some s k action hx]
    exact ⟨hwaiting, heffects⟩
  cases h with
  | failure reading e => exact hact _ (Session.ends_of_failure _ _ reading e)
  | idle reading unasked idle => exact hact _ (Session.ends_of_idle _ _ reading unasked idle)
  | idleHolding chunk holding nobody idle =>
    exact hact _ (Session.ends_of_idle_holding _ _ holding nobody idle)
  | asked asked running => exact hact _ (Session.ends_of_closing _ _ asked running)

/-- **What asks a session to close**: a request for its end, or a payload that its target does not
take.  This stands until the session ends. -/
theorem asked_step {s : Server σ} {k : Nat} {x y : Session σ} (hx : s.sessions[k]? = some x)
    {event : Event σ} (hy : (s.step event).1.sessions[k]? = some y) :
    y.closing = true ↔ x.closing = true ∨ s.action? event = some (k, .close) ∨
      ∃ p, s.action? event = some (k, .forward p) ∧ (x.forwarder.forward p).1.isOk = false := by
  obtain ⟨q, -, ⟨hother, hstep⟩ | ⟨action, haction, hstep⟩⟩ := session_step_cases hx event
  · obtain rfl := Option.some.inj (hstep.symm.trans hy)
    simp [hother]
  · obtain rfl := Option.some.inj (hstep.symm.trans hy)
    rw [Session.closing_step, haction]
    simp

/-! ## The way out -/

omit [Sink σ] in
theorem action?_eq_shutDown {s : Server σ} {event : Event σ} {k : Nat} :
    s.action? event = some (k, .shutDown) ↔ event = .shutDown k ∧ s.isWriting k = false := by
  cases event with
  | forward number | abandon number =>
    simp only [action?, Option.bind_eq_some_iff, reduceCtorEq, false_and, iff_false]
    rintro ⟨visit, -, heq⟩
    cases hreceived : visit.received <;> simp [hreceived] at heq
  | shutDown j =>
    refine ⟨fun h => ?_, ?_⟩
    · obtain ⟨hfree, rfl, -⟩ := action?_shutDown h
      exact ⟨rfl, hfree⟩
    · rintro ⟨⟨⟩, hfree⟩
      rw [action?, hfree]
      rfl
  | _ => simp [action?]

/-- **A connection is shut down once the queue of its session is closed**, by a step of its own, and
not while somebody writes on it. -/
theorem shutDown_step {s : Server σ} {k : Nat} {x y : Session σ} (hx : s.sessions[k]? = some x)
    {event : Event σ} (hy : (s.step event).1.sessions[k]? = some y) :
    y.phase = .shutDown ↔
      x.phase = .shutDown ∨ x.phase = .closed ∧ event = .shutDown k ∧ s.isWriting k = false := by
  rw [← action?_eq_shutDown]
  obtain ⟨q, -, ⟨hother, hstep⟩ | ⟨action, haction, hstep⟩⟩ := session_step_cases hx event
  · obtain rfl := Option.some.inj (hstep.symm.trans hy)
    simp [hother]
  · obtain rfl := Option.some.inj (hstep.symm.trans hy)
    rw [Session.phase_step, haction]
    simp

/-- **What shutting a connection down does**: the target is told, and that is all. -/
theorem step_shutDown {s : Server σ} {k : Nat} {x : Session σ} (hx : s.sessions[k]? = some x)
    (hclosed : x.phase = .closed) (hfree : s.isWriting k = false) :
    s.step (.shutDown k) = ({ s with sessions := s.sessions.set k x.hungUp }, []) := by
  rw [Server.step, hfree, if_neg Bool.false_ne_true, act_of_some s k _ hx,
    Session.step_shutDown_of_closed _ _ hclosed]
  rfl

/-- At some point of a run the target of a session was told that nothing more will come. -/
def HungUp (s : Server σ) (events : List (Event σ)) (k : Nat) : Prop :=
  ∃ before after x, events = before ++ .shutDown k :: after ∧
    (s.run before).1.sessions[k]? = some x ∧ x.phase = .closed ∧
    ((s.run before).1.step (.shutDown k)).1.sessions[k]? = some x.hungUp

theorem HungUp.cons {s : Server σ} {event : Event σ} {rest : List (Event σ)} {k : Nat}
    (h : (s.step event).1.HungUp rest k) : s.HungUp (event :: rest) k := by
  obtain ⟨before, after, x, rfl, htold⟩ := h
  exact ⟨event :: before, after, x, rfl, htold⟩

/-- **Whatever was shut down meanwhile was told so.** -/
theorem hungUp_of_shutDown {s : Server σ} {k : Nat}
    (hbefore : ∀ x, s.sessions[k]? = some x → x.phase ≠ .shutDown) {events : List (Event σ)}
    {y : Session σ} (hy : (s.run events).1.sessions[k]? = some y) (hshut : y.phase = .shutDown) :
    s.HungUp events k := by
  induction events generalizing s with
  | nil => exact absurd hshut (hbefore y hy)
  | cons event rest ih =>
    by_cases hnow : ∃ z, (s.step event).1.sessions[k]? = some z ∧ z.phase = .shutDown
    · obtain ⟨z, hz, hphase⟩ := hnow
      cases hx : s.sessions[k]? with
      | none =>
        obtain ⟨device, rfl⟩ := eq_start_of_new hx hz
        cases hphase
      | some x =>
        obtain hwas | ⟨hclosed, rfl, hfree⟩ := (shutDown_step hx hz).1 hphase
        · exact absurd hwas (hbefore x hx)
        · refine ⟨[], rest, x, rfl, hx, hclosed, ?_⟩
          show (s.step (.shutDown k)).1.sessions[k]? = _
          rw [step_shutDown hx hclosed hfree]
          exact List.getElem?_set_self (List.getElem?_eq_some_iff.1 hx).1
    · exact (ih (fun z hz hphase => hnow ⟨z, hz, hphase⟩) hy).cons

/-- A connection is shut down once. -/
theorem step_shutDown_of_shutDown {s : Server σ} {k : Nat} {x : Session σ}
    (hx : s.sessions[k]? = some x) (hshut : x.phase = .shutDown) :
    s.step (.shutDown k) = (s, []) := by
  have hstays : x.step s.timeouts s.clock .shutDown = (x, []) := by simp [Session.step, hshut]
  have hset : s.sessions.set k x = s.sessions := by
    obtain ⟨hk, rfl⟩ := List.getElem?_eq_some_iff.1 hx
    exact List.set_getElem_self hk
  rw [Server.step, act_of_some s k _ hx, hstays, hset]
  exact ite_self _

omit [Sink σ] in
/-- A session that is shut down leaves its place if it is in place. -/
theorem clear_eq {s : Server σ} {k : Nat} {x : Session σ} (hx : s.sessions[k]? = some x)
    (hshut : x.phase = .shutDown) :
    s.clear k = if s.current = some k then
      ({ s with current := none, metrics := s.metrics.sessionClosed }, [.cleared k])
    else (s, []) := by
  by_cases hplace : s.current = some k <;> simp [clear, hx, hshut, hplace]

/-- **Only the session in place leaves it, after its connection is shut down.** -/
theorem cleared_step {s : Server σ} {event : Event σ} {k : Nat}
    (h : .cleared k ∈ (s.step event).2) :
    event = .clear k ∧ s.current = some k ∧
      (∃ x, s.sessions[k]? = some x ∧ x.phase = .shutDown) ∧
      s.step event = ({ s with current := none, metrics := s.metrics.sessionClosed },
        [.cleared k]) := by
  rw [(step_reacts s event).2, List.mem_append] at h
  obtain hreact | hremark := h
  · obtain ⟨_, _, _, heq⟩ | ⟨_, _, heq⟩ := mem_react hreact <;> cases heq
  · cases event with
    | arrive number request target =>
      simp only [remark, arrive] at hremark
      cases hmessage : Received.ofMessage request with
      | error e => simp [hmessage] at hremark
      | ok received =>
        rw [hmessage] at hremark
        cases hcurrent : s.current <;> cases target <;> simp [hcurrent] at hremark
    | clear j =>
      simp only [remark, clear] at hremark
      split at hremark
      · cases hremark
      · rename_i x hx
        split at hremark
        · rename_i hleaves
          cases List.mem_singleton.1 hremark
          refine ⟨rfl, hleaves.2, ⟨x, hx, hleaves.1⟩, ?_⟩
          rw [step, clear_eq hx hleaves.1, if_pos hleaves.2]
        · cases hremark
    | _ => cases hremark

/-! ### Once the steps were taken -/

theorem hasEnded_run {s : Server σ} {k : Nat} (h : s.hasEnded k = true)
    (events : List (Event σ)) : (s.run events).1.hasEnded k = true := by
  have hended := ended_run s events k
  rw [h] at hended
  cases hafter : (s.run events).1.hasEnded k with
  | true => rfl
  | false => simp [hafter] at hended

theorem isOver_run {s : Server σ} {k : Nat} (h : s.isOver k = true) (events : List (Event σ)) :
    (s.run events).1.isOver k = true := by
  obtain ⟨x, hx, hclosed⟩ := isOver_iff.1 h
  obtain ⟨es, hy⟩ := exists_run_of_getElem? hx events
  exact isOver_iff.2 ⟨_, hy, Session.run_induction (P := fun y => y.isOpen = false)
    (fun _ _ event hover => Session.not_isOpen_step _ _ hover event) hclosed es⟩

/-- The step that closes the queue of a session that has ended has done so for good. -/
theorem isOver_of_release {s : Server σ} {k : Nat} (hended : s.hasEnded k = true) :
    (s.step (.release k)).1.isOver k = true := by
  obtain ⟨x, hx, hstopped⟩ := hasEnded_iff.1 hended
  by_cases hphase : x.phase = .ended
  · rw [step_release hx hphase, isOver, List.getElem?_set_self (List.getElem?_eq_some_iff.1 hx).1]
    rfl
  · refine isOver_run (isOver_iff.2 ⟨x, hx, ?_⟩) [.release k]
    rw [← Bool.not_eq_true, x.isOpen_iff]
    simp [hstopped, hphase]

theorem shutDown_run {s : Server σ} {k : Nat} {x : Session σ} (hx : s.sessions[k]? = some x)
    (hshut : x.phase = .shutDown) (events : List (Event σ)) :
    ∃ y, (s.run events).1.sessions[k]? = some y ∧ y.phase = .shutDown := by
  obtain ⟨es, hy⟩ := exists_run_of_getElem? hx events
  exact ⟨_, hy, Session.run_induction (P := fun y => y.phase = .shutDown)
    (fun _ _ event hphase => Session.shutDown_step _ _ hphase event) hshut es⟩

/-- The turn passes on, and does not come back. -/
theorem turn_le_run {s : Server σ} (h : s.Single) (events : List (Event σ)) :
    s.turn ≤ (s.run events).1.turn := by
  induction events generalizing s with
  | nil => exact Nat.le_refl _
  | cons event rest ih =>
    have hrest := ih (h.step event)
    rw [turn_step h event] at hrest
    exact Nat.le_trans (Nat.le_add_right _ _) hrest

omit [Sink σ] in
/-- A session that is not in place had its turn. -/
theorem Single.lt_turn {s : Server σ} (h : s.Single) {k : Nat} {x : Session σ}
    (hx : s.sessions[k]? = some x) (hplace : s.current ≠ some k) : k < s.turn := by
  have hlt := (List.getElem?_eq_some_iff.1 hx).1
  rw [turn]
  cases hcurrent : s.current with
  | none => exact hlt
  | some j =>
    have hnewest := h.newest j hcurrent
    have hne : j ≠ k := fun heq => hplace (heq ▸ hcurrent)
    show k < j
    omega

/-- The step that shuts a connection down has done so for good. -/
theorem shutDown_of_isOver {s : Server σ} {k : Nat} (hover : s.isOver k = true)
    (hfree : s.isWriting k = false) (later : List (Event σ)) :
    ∃ y, (s.run (.shutDown k :: later)).1.sessions[k]? = some y ∧ y.phase = .shutDown := by
  obtain ⟨x, hx, hclosed⟩ := isOver_iff.1 hover
  have hy := getElem?_step hx (.shutDown k)
  refine shutDown_run hy ((shutDown_step hx hy).2 ?_) later
  rw [Session.isOpen] at hclosed
  cases hphase : x.phase with
  | reading | holding _ | ended => simp [hphase] at hclosed
  | closed => exact .inr ⟨rfl, rfl, hfree⟩
  | shutDown => exact .inl rfl

/-- The step that leaves the place of a session has its turn pass. -/
theorem lt_turn_of_clear {s : Server σ} (h : s.Single) {k : Nat} {x : Session σ}
    (hx : s.sessions[k]? = some x) (hshut : x.phase = .shutDown) :
    k < (s.step (.clear k)).1.turn := by
  refine (h.step (.clear k)).lt_turn (getElem?_step hx (.clear k)) ?_
  rw [step, clear_eq hx hshut]
  by_cases hplace : s.current = some k
  · rw [if_pos hplace]
    exact (Option.some_ne_none k).symm
  · rw [if_neg hplace]
    exact hplace

/-- **A session that took its last steps has left its place**, and was counted out once. -/
theorem left_run {s : Server σ} {effects : List Effect} (h : s.Tallies effects) {k : Nat}
    (hended : s.hasEnded k = true) {before after : List (Event σ)}
    (hrelease : .release k ∈ before) (hfree : (s.run before).1.isWriting k = false)
    (hclear : .clear k ∈ after) {later : List (Event σ)}
    (hlater : before ++ .shutDown k :: after = later) :
    (clearances (effects ++ (s.run later).2)).count k = 1 ∧ (s.run later).1.current ≠ some k ∧
      ∃ y, (s.run later).1.sessions[k]? = some y ∧ y.phase = .shutDown := by
  have hover : (s.run before).1.isOver k = true := by
    obtain ⟨a, b, rfl⟩ := List.append_of_mem hrelease
    rw [run_append]
    exact isOver_run (isOver_of_release (hasEnded_run hended a)) b
  have hturn : k < (s.run later).1.turn ∧
      ∃ y, (s.run later).1.sessions[k]? = some y ∧ y.phase = .shutDown := by
    obtain ⟨c, d, rfl⟩ := List.append_of_mem hclear
    have hsingle := (h.single.run before).run (.shutDown k :: c)
    obtain ⟨y, hy, hshut⟩ := shutDown_of_isOver hover hfree c
    have hlt := lt_turn_of_clear hsingle hy hshut
    rw [← hlater, ← List.cons_append, run_append, run_append]
    exact ⟨Nat.lt_of_lt_of_le hlt (turn_le_run (hsingle.step _) d),
      shutDown_run hy hshut (.clear k :: d)⟩
  refine ⟨?_, ?_, hturn.2⟩
  · rw [(h.run later).left, List.nodup_range.count, if_pos (List.mem_range.2 hturn.1)]
  · intro hplace
    rw [turn, hplace] at hturn
    exact absurd hturn.1 (Nat.lt_irrefl k)

end Server
end Tunnel
end PollTunnel
