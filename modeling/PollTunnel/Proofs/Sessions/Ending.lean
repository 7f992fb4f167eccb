import PollTunnel.Proofs.Handover.Loop

/-!
# How a session ends

The loop of a session ends in one step (`Session.finish`), for whatever reason.  If the step has a
chunk at hand, requesters may be served before; everybody else who waits does so still
(`Session.Ends`).  `step_ends_or_stays` says that an event either ends the loop in this way, or
leaves it running or ended as it is and says nothing of an end.

They are told that the session is over by a step of its own, which closes the queue
(`step_release`).

The reasons come last: the target fails or has nothing more to say, no request came for too long, or
the session was asked to close, by a request or because a payload could not be passed on.
-/

set_option autoImplicit false

namespace PollTunnel
namespace Tunnel

/-- A chunk is offered to the requesters who have gone away and to the first who is there. -/
theorem Waiting.handOver_serves (p : Payload) (q : Waiting) :
    (q.handOver p).1.map (·.waiter) ++ (q.handOver p).2.getD [] = q ∧
      (∀ r ∈ (q.handOver p).1, r.answer = .payload p) ∧
      ∀ r ∈ (q.handOver p).1.dropLast, r.waiter.present = false := by
  refine ⟨q.handOver_conserves p, q.answer_of_mem_handOver p, ?_⟩
  induction q with
  | nil => exact fun r hr => absurd hr List.not_mem_nil
  | cons w rest ih =>
    rw [handOver]
    by_cases hpresent : w.present = true
    · simp [hpresent]
    · rw [if_neg hpresent]
      intro r hr
      cases hreplies : (handOver p rest).1 with
      | nil => simp [hreplies] at hr
      | cons r' replies =>
        rw [hreplies] at ih
        simp only [hreplies, List.dropLast_cons_cons, List.mem_cons] at hr
        obtain rfl | hr := hr
        · simpa using hpresent
        · exact ih r hr

namespace Session

variable {σ : Type}

/-- The ends of the loop among effects. -/
def endings (effects : List Effect) : List (Option Error) :=
  effects.filterMap fun
    | .ended cause => some cause
    | _ => none

/-- What is seen of effects outside of the server. -/
def seen (effects : List Effect) : List Effect :=
  effects.filter fun
    | .passed _ _ => false
    | _ => true

@[simp] theorem endings_append (a b : List Effect) : endings (a ++ b) = endings a ++ endings b :=
  List.filterMap_append

@[simp] theorem endings_ended_cons (cause : Option Error) (effects : List Effect) :
    endings (.ended cause :: effects) = cause :: endings effects := rfl

@[simp] theorem endings_passed_cons (direction : Direction) (p : Payload) (effects : List Effect) :
    endings (.passed direction p :: effects) = endings effects := rfl

@[simp] theorem endings_map_reply (rs : List Reply) : endings (rs.map .reply) = [] :=
  List.filterMap_eq_nil_iff.2 fun effect heffect => by
    obtain ⟨r, -, rfl⟩ := List.mem_map.1 heffect
    rfl

@[simp] theorem seen_append (a b : List Effect) : seen (a ++ b) = seen a ++ seen b :=
  List.filter_append _ _

@[simp] theorem seen_ended_cons (cause : Option Error) (effects : List Effect) :
    seen (.ended cause :: effects) = .ended cause :: seen effects := rfl

@[simp] theorem seen_passed_cons (direction : Direction) (p : Payload) (effects : List Effect) :
    seen (.passed direction p :: effects) = seen effects := rfl

@[simp] theorem seen_map_reply (rs : List Reply) : seen (rs.map .reply) = rs.map .reply :=
  List.filter_eq_self.2 fun effect heffect => by
    obtain ⟨r, -, rfl⟩ := List.mem_map.1 heffect
    rfl

theorem endings_seen (effects : List Effect) : endings (seen effects) = endings effects := by
  induction effects with
  | nil => rfl
  | cons effect effects ih => cases effect <;> simp_all [endings, seen]

/-! ## The end -/

/-- An outcome is the end of a loop at which `q` waits: a chunk that was offered is handed to those
in front, and the others wait on. -/
structure Ends (offered : List Payload) (q : Waiting) (cause : Option Error) (o : Outcome σ) :
    Prop where
  phase : o.1.phase = .ended
  answered : ∃ handed : List Reply, q = handed.map (·.waiter) ++ o.1.waiting ∧
    (∀ r ∈ handed, ∃ chunk ∈ offered, r.answer = .payload chunk) ∧
    (∀ r ∈ handed.dropLast, r.waiter.present = false) ∧
    seen o.2 = handed.map .reply ++ [.ended cause]

theorem Ends.endings {offered : List Payload} {q : Waiting} {cause : Option Error} {o : Outcome σ}
    (h : Ends offered q cause o) : endings o.2 = [cause] := by
  obtain ⟨handed, -, -, -, hseen⟩ := h.answered
  rw [← endings_seen, hseen, endings_append, endings_map_reply]
  rfl

theorem Ends.isRunning {offered : List Payload} {q : Waiting} {cause : Option Error}
    {o : Outcome σ} (h : Ends offered q cause o) : o.1.isRunning = false := by
  rw [Session.isRunning, h.phase]

/-- An outcome of a loop that runs: it goes on, or this is the end. -/
inductive Fate (offered : List Payload) (q : Waiting) (o : Outcome σ) : Prop where
  | goesOn (isRunning : o.1.isRunning = true) (silent : endings o.2 = [])
  | ends (cause : Option Error) (ends : Ends offered q cause o)

theorem ends_finish (offered : List Payload) (now : Nat) (cause : Option Error) (s : Session σ) :
    Ends offered s.waiting cause (s.finish now cause) where
  phase := rfl
  answered := ⟨[], rfl, by simp, by simp, rfl⟩

/-- Whoever is handed a chunk before an outcome belongs to it. -/
theorem Fate.prepend {q rest : Waiting} {handed : List Reply} {chunk : Payload} {o : Outcome σ}
    (h : Fate [] rest o) (hq : handed.map (·.waiter) ++ rest = q)
    (hpayload : ∀ r ∈ handed, r.answer = .payload chunk)
    (hgone : ∀ r ∈ handed.dropLast, r.waiter.present = false) :
    Fate [chunk] q (o.1, handed.map .reply ++ o.2) := by
  cases h with
  | goesOn isRunning silent => exact .goesOn isRunning (by simp [silent])
  | ends cause ends =>
    obtain ⟨phase, none, hleft, hnone, -, hseen⟩ := ends
    -- Nothing was offered after the chunk, so nobody was handed anything there.
    obtain rfl : none = [] := List.eq_nil_iff_forall_not_mem.2 fun r hr => by
      obtain ⟨_, hmem, -⟩ := hnone r hr
      exact absurd hmem List.not_mem_nil
    obtain rfl : rest = o.1.waiting := hleft
    refine .ends cause ⟨phase, handed, hq.symm, ?_, hgone, ?_⟩
    · exact fun r hr => ⟨chunk, List.mem_singleton_self chunk, hpayload r hr⟩
    · simpa using hseen

theorem fate_turn (timeouts : Timeouts) (now : Nat) (s : Session σ) :
    Fate [] s.waiting (s.turn timeouts now) := by
  rw [turn]
  by_cases hclosing : s.closing = true
  · rw [if_pos hclosing]
    exact .ends none (ends_finish [] now none s)
  · rw [if_neg hclosing]
    by_cases hidle : s.isIdle timeouts now = true
    · rw [if_pos hidle]
      exact .ends _ (ends_finish [] now _ s)
    · rw [if_neg hidle]
      exact .goesOn rfl (endings_map_reply _)

theorem fate_deliver (timeouts : Timeouts) (now : Nat) (chunk : Payload) (s : Session σ) :
    Fate [chunk] s.waiting (s.deliver timeouts now chunk) := by
  obtain ⟨hconserves, hpayload, hgone⟩ := s.waiting.handOver_serves chunk
  rw [deliver]
  split
  · rename_i handed left heq
    rw [heq] at hconserves hpayload hgone
    exact (fate_turn timeouts now { s with waiting := left }).prepend hconserves hpayload hgone
  · rename_i handed heq
    rw [heq] at hconserves hpayload hgone
    dsimp only
    split
    · exact (Fate.ends _ (ends_finish [] now _ { s with waiting := [] })).prepend hconserves hpayload
        hgone
    · exact .goesOn rfl (endings_map_reply _)

theorem fate_receive (timeouts : Timeouts) (now : Nat) (data : Bytes) (s : Session σ)
    {offered : List Payload}
    (hoffered : ∀ chunk, Payload.make (s.chunks + 1) data = .ok chunk → offered = [chunk]) :
    Fate offered s.waiting (s.receive timeouts now data) := by
  rw [receive]
  cases hmake : Payload.make (s.chunks + 1) data with
  | error e => exact .ends _ (ends_finish offered now _ { s with chunks := s.chunks + 1 })
  | ok chunk =>
    rw [hoffered chunk hmake]
    have hdeliver := fate_deliver timeouts now chunk { s with chunks := s.chunks + 1 }
    dsimp only
    cases hdeliver with
    | goesOn isRunning silent => exact .goesOn isRunning silent
    | ends cause ends => exact .ends cause ⟨ends.phase, ends.answered⟩

theorem fate_read (timeouts : Timeouts) (now : Nat)
    (outcome : Except Payload.Error Source.Outcome) {s : Session σ} (hreading : s.phase = .reading) :
    Fate (s.drawn (.read outcome)) s.waiting (s.read timeouts now outcome) := by
  match outcome with
  | .error e => exact .ends _ (ends_finish _ now _ s)
  | .ok .timedOut =>
    have hnone : s.drawn (.read (.ok .timedOut)) = [] := by simp [drawn]
    rw [hnone]
    exact fate_turn timeouts now s
  | .ok (.data data) =>
    refine fate_receive timeouts now data s fun chunk hmake => ?_
    simp [drawn, hreading, hmake, Except.toOption]

variable [Sink σ]

/-- **An event ends the loop for good, or does not touch whether it runs.** -/
theorem step_ends_or_stays (timeouts : Timeouts) (now : Nat) (s : Session σ) (event : Event σ) :
    (∃ cause, s.isRunning = true ∧
      Ends (s.offered event) s.waiting cause (s.step timeouts now event)) ∨
    (s.step timeouts now event).1.isRunning = s.isRunning ∧
      endings (s.step timeouts now event).2 = [] := by
  have hfate : ∀ {o : Outcome σ}, s.isRunning = true → Fate (s.offered event) s.waiting o →
      (∃ cause, s.isRunning = true ∧ Ends (s.offered event) s.waiting cause o) ∨
        o.1.isRunning = s.isRunning ∧ endings o.2 = [] := by
    intro o hruns hfate
    cases hfate with
    | goesOn isRunning silent => exact .inr ⟨isRunning.trans hruns.symm, silent⟩
    | ends cause ends => exact .inl ⟨cause, hruns, ends⟩
  cases event with
  | join number =>
    refine .inr ?_
    rw [step, join]
    split
    · exact ⟨rfl, endings_map_reply _⟩
    · exact ⟨rfl, rfl⟩
  | leave number | close | abandon p | device device => exact .inr ⟨rfl, rfl⟩
  | forward p =>
    refine .inr ⟨?_, rfl⟩
    simp only [step, forward]
    split <;> rfl
  | read outcome =>
    rw [step]
    split
    · rename_i hreading
      have hruns : s.isRunning = true := by rw [isRunning, hreading]
      exact hfate hruns (fate_read timeouts now outcome hreading)
    · exact .inr ⟨rfl, rfl⟩
  | wake =>
    simp only [step]
    split
    · rename_i chunk hphase
      have hruns : s.isRunning = true := by rw [isRunning, hphase]
      have hoffered : s.offered .wake = [chunk] := by rw [offered, held, hphase]
      exact hfate hruns (hoffered ▸ fate_deliver timeouts now chunk s)
    · exact .inr ⟨rfl, rfl⟩
  | notice =>
    rw [step]
    split
    · rename_i hclosing
      exact .inl ⟨none, hclosing.2, ends_finish _ now none s⟩
    · exact .inr ⟨rfl, rfl⟩
  | release =>
    rw [step]
    split
    · rename_i hended
      refine .inr ⟨?_, endings_map_reply _⟩
      rw [isRunning, isRunning, hended]
      rfl
    · exact .inr ⟨rfl, rfl⟩
  | shutDown =>
    rw [step]
    split
    · rename_i hclosed
      refine .inr ⟨?_, rfl⟩
      rw [isRunning, isRunning, hclosed]
    · exact .inr ⟨rfl, rfl⟩

/-- **Everybody who waits when the queue is closed is told that the session is over**, and nobody is
left. -/
theorem step_release (timeouts : Timeouts) (now : Nat) {s : Session σ} (h : s.phase = .ended) :
    s.step timeouts now .release =
      ({ s with phase := .closed, waiting := [] }, s.waiting.release.map .reply) := by
  rw [step, if_pos h]
  rfl

/-- Once its loop has ended a session goes on by two steps of its own, and stays where it is
otherwise. -/
theorem phase_step_of_not_isRunning (timeouts : Timeouts) (now : Nat) {s : Session σ}
    (h : s.isRunning = false) (event : Event σ) :
    (s.step timeouts now event).1.phase =
      match event with
      | .release => if s.phase = .ended then .closed else s.phase
      | .shutDown => if s.phase = .closed then .shutDown else s.phase
      | _ => s.phase := by
  cases event with
  | join number =>
    simp only [step, join]
    split <;> rfl
  | forward p =>
    simp only [step, forward]
    split <;> rfl
  | read outcome =>
    have hreading : s.phase ≠ .reading := fun hreading => by rw [isRunning, hreading] at h; cases h
    rw [step, if_neg hreading]
  | wake =>
    simp only [step]
    split
    · rename_i chunk hholding
      rw [isRunning, hholding] at h
      cases h
    · rfl
  | notice => rw [step, if_neg (by simp [h])]
  | release | shutDown =>
    rw [step]
    split <;> rfl
  | leave number | close | abandon p | device device => rfl

/-- **The queue is closed by a step of its own**, after the end of the loop. -/
theorem release_of_closes {timeouts : Timeouts} {now : Nat} {s : Session σ} {event : Event σ}
    (hopen : s.isOpen = true) (hover : (s.step timeouts now event).1.isOpen = false) :
    s.phase = .ended ∧ event = .release := by
  obtain hruns | hended := s.isOpen_iff.1 hopen
  · obtain ⟨cause, -, hends⟩ | ⟨hstays, -⟩ := step_ends_or_stays timeouts now s event
    · rw [isOpen, hends.phase] at hover
      cases hover
    · rw [isOpen_of_isRunning (hstays.trans hruns)] at hover
      cases hover
  · have hphase := phase_step_of_not_isRunning timeouts now (by rw [isRunning, hended]) event
    refine ⟨hended, ?_⟩
    cases event with
    | release => rfl
    | _ =>
      simp only [hended, reduceCtorEq, if_false] at hphase
      rw [isOpen, hphase] at hover
      cases hover

/-! ## Reasons -/

section Reasons

variable (timeouts : Timeouts) (now : Nat) {s : Session σ}

/-- The target fails, or has nothing more to say. -/
theorem ends_of_failure (hreading : s.phase = .reading) (e : Payload.Error) :
    Ends [] s.waiting (some (.payload e)) (s.step timeouts now (.read (.error e))) := by
  rw [step, if_pos hreading]
  exact ends_finish [] now _ s

/-- No request came for too long while the target was silent. -/
theorem ends_of_idle (hreading : s.phase = .reading) (hclosing : s.closing = false)
    (hidle : s.isIdle timeouts now = true) :
    Ends [] s.waiting (some (s.idleError timeouts now))
      (s.step timeouts now (.read (.ok .timedOut))) := by
  have hopen : ¬ s.closing = true := by simp [hclosing]
  rw [step, if_pos hreading, read, turn, if_neg hopen, if_pos hidle]
  exact ends_finish [] now _ s

/-- No request came for too long while a chunk was held. -/
theorem ends_of_idle_holding {chunk : Payload} (hholding : s.phase = .holding chunk)
    (hnobody : s.waiting = []) (hidle : s.isIdle timeouts now = true) :
    Ends [] s.waiting (some (s.idleError timeouts now)) (s.step timeouts now .wake) := by
  obtain ⟨forwarder, _, lastRequest, chunks, closing, _, wakeBy⟩ := s
  obtain rfl := hnobody
  obtain rfl := hholding
  simp only [step, deliver, Waiting.handOver]
  rw [if_pos hidle]
  exact ends_finish [] now _
    (⟨forwarder, [], lastRequest, chunks, closing, .holding chunk, wakeBy⟩ : Session σ)

/-- The session was asked to close. -/
theorem ends_of_closing (hclosing : s.closing = true) (hruns : s.isRunning = true) :
    Ends [] s.waiting none (s.step timeouts now .notice) := by
  rw [step, if_pos ⟨hclosing, hruns⟩]
  exact ends_finish [] now none s

omit [Sink σ] in
theorem closing_turn (s : Session σ) : (s.turn timeouts now).1.closing = s.closing := by
  rw [turn]
  split
  · rfl
  · split <;> rfl

omit [Sink σ] in
theorem closing_deliver (chunk : Payload) (s : Session σ) :
    (s.deliver timeouts now chunk).1.closing = s.closing := by
  rw [deliver]
  split
  · exact closing_turn timeouts now _
  · dsimp only
    split <;> rfl

omit [Sink σ] in
theorem closing_read (outcome : Except Payload.Error Source.Outcome) (s : Session σ) :
    (s.read timeouts now outcome).1.closing = s.closing := by
  match outcome with
  | .error e => rfl
  | .ok .timedOut => exact closing_turn timeouts now s
  | .ok (.data data) =>
    simp only [read, receive]
    split
    · rfl
    · exact closing_deliver timeouts now _ _

/-- **A request to close stands**, and it is made by a request that asks for it, or by a payload
that cannot be passed on. -/
theorem closing_step (event : Event σ) :
    (s.step timeouts now event).1.closing = true ↔ s.closing = true ∨ event = .close ∨
      ∃ p, event = .forward p ∧ (s.forwarder.forward p).1.isOk = false := by
  cases event with
  | join number =>
    rw [step, join]
    split <;> simp
  | leave number | abandon p | device device => simp [step, abandon]
  | close => simp [step, close]
  | forward p =>
    simp only [step, forward]
    cases hok : (s.forwarder.forward p).1.isOk <;> simp [close, hok]
  | read outcome =>
    rw [step]
    split <;> simp [closing_read]
  | wake =>
    simp only [step]
    split <;> simp [closing_deliver]
  | notice =>
    rw [step]
    split <;> simp [finish]
  | release =>
    rw [step]
    split <;> simp [release]
  | shutDown =>
    rw [step]
    split <;> simp

end Reasons

end Session
end Tunnel
end PollTunnel
