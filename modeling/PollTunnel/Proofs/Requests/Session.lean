import PollTunnel.Tunnel.Session

/-!
# The requests of one session

Every path by which a session takes a request out of its queue answers it.  There are five of them
(`turn`, `deliver`, `receive`, `read` of the loop, and `release` after it), and each is shown to
*settle* its queue: those answered and those left are those there were, the answers are payloads or
the statuses 204 and 410, and a session that is over has nobody left (`Settles`).

A request that comes in is the only other way: it may displace one, and that is where 429 comes from
(`displaced_step`).  `step_cases` says once what an event can do to the queue.
-/

set_option autoImplicit false

namespace PollTunnel
namespace Tunnel
namespace Session

variable {σ : Type}

/-- The requests that are answered, in order. -/
def replies (effects : List Effect) : List Reply :=
  effects.filterMap fun
    | .reply r => some r
    | _ => none

@[simp] theorem replies_nil : replies [] = [] := rfl

@[simp] theorem replies_append (a b : List Effect) : replies (a ++ b) = replies a ++ replies b :=
  List.filterMap_append

@[simp] theorem replies_reply_cons (r : Reply) (effects : List Effect) :
    replies (.reply r :: effects) = r :: replies effects := rfl

@[simp] theorem replies_ended_cons (cause : Option Error) (effects : List Effect) :
    replies (.ended cause :: effects) = replies effects := rfl

@[simp] theorem replies_passed_cons (direction : Direction) (p : Payload) (effects : List Effect) :
    replies (.passed direction p :: effects) = replies effects := rfl

@[simp] theorem replies_map_reply (rs : List Reply) : replies (rs.map .reply) = rs := by
  induction rs with
  | nil => rfl
  | cons r rs ih => rw [List.map_cons, replies_reply_cons, ih]

/-! ## The loop -/

/-- The queue `q` is settled by an outcome: nobody is lost, nobody is answered 429, and nobody is
left behind in a session that is over. -/
structure Settles (q : Waiting) (o : Outcome σ) : Prop where
  /-- Those answered and those left are those there were. -/
  conserves : ((replies o.2).map (·.waiter) ++ o.1.waiting).Perm q
  /-- What they are answered. -/
  status : ∀ r ∈ replies o.2,
    r.answer.statusCode ∈ [Status.ok, Status.noContent, Status.gone]
  /-- Nobody waits for a session that is over. -/
  emptied : o.1.isOpen = false → o.1.waiting = []

theorem settles_finish (now : Nat) (cause : Option Error) (s : Session σ) :
    Settles s.waiting (s.finish now cause) where
  conserves := List.Perm.refl _
  status r hr := absurd hr List.not_mem_nil
  emptied hover := by cases hover

theorem settles_release (s : Session σ) : Settles s.waiting s.release where
  conserves := by simp [release, Waiting.release]
  status r hr := by
    simp only [release, replies_map_reply, Waiting.release, Waiting.answerAll, List.mem_map] at hr
    obtain ⟨w, -, rfl⟩ := hr
    simp [Answer.statusCode]
  emptied _ := rfl

theorem settles_turn (timeouts : Timeouts) (now : Nat) (s : Session σ) :
    Settles s.waiting (s.turn timeouts now) := by
  rw [turn]
  split
  · exact settles_finish now none s
  · split
    · exact settles_finish now _ s
    · refine ⟨?_, fun r hr => ?_, fun h => by cases h⟩
      · rw [replies_map_reply]
        exact Waiting.sweep_conserves _ now s.waiting
      · simp only [replies_map_reply, Waiting.sweep, Waiting.answerAll, List.mem_map] at hr
        obtain ⟨w, -, rfl⟩ := hr
        simp [Answer.statusCode]

/-- What is answered before an outcome settles the rest belongs to it. -/
theorem Settles.prepend {q rest : Waiting} {rs : List Reply} {o : Outcome σ}
    (h : Settles rest o) (hq : rs.map (·.waiter) ++ rest = q)
    (hstatus : ∀ r ∈ rs, r.answer.statusCode = Status.ok) :
    Settles q (o.1, rs.map .reply ++ o.2) where
  conserves := by
    rw [replies_append, replies_map_reply, List.map_append, List.append_assoc, ← hq]
    exact h.conserves.append_left _
  status r hr := by
    rw [replies_append, replies_map_reply, List.mem_append] at hr
    rcases hr with hr | hr
    · rw [hstatus r hr]; exact List.mem_cons_self
    · exact h.status r hr
  emptied := h.emptied

theorem statusCode_handOver (p : Payload) (q : Waiting) :
    ∀ r ∈ (q.handOver p).1, r.answer.statusCode = Status.ok := by
  induction q with
  | nil => exact fun r hr => absurd hr List.not_mem_nil
  | cons w rest ih =>
    rw [Waiting.handOver]
    split
    · simp [Answer.statusCode]
    · intro r hr
      rcases List.mem_cons.1 hr with rfl | hr
      · rfl
      · exact ih r hr

theorem settles_deliver (timeouts : Timeouts) (now : Nat) (chunk : Payload) (s : Session σ) :
    Settles s.waiting (s.deliver timeouts now chunk) := by
  have hconserves := Waiting.handOver_conserves chunk s.waiting
  have hstatus := statusCode_handOver chunk s.waiting
  rw [deliver]
  split
  · rename_i rs left heq
    rw [heq] at hconserves hstatus
    exact (settles_turn timeouts now { s with waiting := left }).prepend hconserves hstatus
  · rename_i rs heq
    rw [heq] at hconserves hstatus
    dsimp only
    split
    · exact (settles_finish now _ { s with waiting := [] }).prepend hconserves hstatus
    · have hnil : Settles (σ := σ) [] ({ s with
          waiting := []
          phase := .holding chunk
          wakeBy := if s.closing then now else now + timeouts.longPoll.nanos }, []) :=
        ⟨List.Perm.refl _, by simp, fun _ => rfl⟩
      have := hnil.prepend hconserves hstatus
      rwa [List.append_nil] at this

theorem settles_receive (timeouts : Timeouts) (now : Nat) (data : Bytes) (s : Session σ) :
    Settles s.waiting (s.receive timeouts now data) := by
  rw [receive]
  dsimp only
  split
  · exact settles_finish now _ { s with chunks := s.chunks + 1 }
  · rename_i chunk _
    obtain ⟨hconserves, hstatus, hover⟩ :=
      settles_deliver timeouts now chunk { s with chunks := s.chunks + 1 }
    exact ⟨hconserves, hstatus, hover⟩

theorem settles_read (timeouts : Timeouts) (now : Nat)
    (outcome : Except Payload.Error Source.Outcome) (s : Session σ) :
    Settles s.waiting (s.read timeouts now outcome) := by
  match outcome with
  | .error e => exact settles_finish now _ s
  | .ok .timedOut => exact settles_turn timeouts now s
  | .ok (.data data) => exact settles_receive timeouts now data s

/-! ## Requests that come and go -/

theorem map_number_leave (q : Waiting) (number : Nat) :
    (q.leave number).map (·.number) = q.map (·.number) := by
  rw [Waiting.leave, List.map_map]
  refine List.map_congr_left fun w _ => ?_
  simp only [Function.comp_apply]
  split <;> rfl

/-! ## All events -/

/-- The request that an event brings. -/
def joined : Event σ → List Nat
  | .join number => [number]
  | _ => []

variable [Sink σ]

/-- What an event does to the queue: a request is let in or turned away, a requester goes away, or
the queue is settled. -/
theorem step_cases (timeouts : Timeouts) (now : Nat) {s : Session σ}
    (hover : s.isOpen = false → s.waiting = []) (event : Event σ) :
    (∃ number, event = .join number ∧ s.isOpen = true ∧
      replies (s.step timeouts now event).2 = (s.waiting.join ⟨number, now, true⟩).1 ∧
      (s.step timeouts now event).1.waiting = (s.waiting.join ⟨number, now, true⟩).2 ∧
      (s.step timeouts now event).1.isOpen = true) ∨
    (∃ number, event = .join number ∧ s.isOpen = false ∧
      s.step timeouts now event = (s, [.reply ⟨⟨number, now, true⟩, .status Status.gone⟩])) ∨
    (∃ number, event = .leave number ∧
      s.step timeouts now event = ({ s with waiting := s.waiting.leave number }, [])) ∨
    joined event = [] ∧ Settles s.waiting (s.step timeouts now event) := by
  have hsame : Settles s.waiting (s, []) := ⟨List.Perm.refl _, by simp, hover⟩
  cases event with
  | join number =>
    cases hopen : s.isOpen with
    | true =>
      refine Or.inl ⟨number, rfl, rfl, ?_⟩
      simp only [step, join, hopen, if_true, replies_map_reply, true_and]
      exact hopen
    | false => exact Or.inr (Or.inl ⟨number, rfl, rfl, step_join_of_not_isOpen _ now number s hopen⟩)
  | leave number => exact Or.inr (Or.inr (Or.inl ⟨number, rfl, rfl⟩))
  | close => exact Or.inr (Or.inr (Or.inr ⟨rfl, List.Perm.refl _, by simp [step], hover⟩))
  | forward p =>
    refine Or.inr (Or.inr (Or.inr ⟨rfl, ?_⟩))
    simp only [step, forward]
    split
    · exact ⟨List.Perm.refl _, by simp, hover⟩
    · exact ⟨List.Perm.refl _, by simp, hover⟩
  | abandon p =>
    exact Or.inr (Or.inr (Or.inr ⟨rfl, List.Perm.refl _, by simp [step, abandon], hover⟩))
  | read outcome =>
    refine Or.inr (Or.inr (Or.inr ⟨rfl, ?_⟩))
    rw [step]
    split
    · exact settles_read timeouts now outcome s
    · exact hsame
  | wake =>
    refine Or.inr (Or.inr (Or.inr ⟨rfl, ?_⟩))
    simp only [step]
    split
    · exact settles_deliver timeouts now _ s
    · exact hsame
  | notice =>
    refine Or.inr (Or.inr (Or.inr ⟨rfl, ?_⟩))
    simp only [step]
    split
    · exact settles_finish now none s
    · exact hsame
  | release =>
    refine Or.inr (Or.inr (Or.inr ⟨rfl, ?_⟩))
    simp only [step]
    split
    · exact settles_release s
    · exact hsame
  | shutDown =>
    refine Or.inr (Or.inr (Or.inr ⟨rfl, ?_⟩))
    simp only [step]
    split
    · rename_i hclosed
      exact ⟨List.Perm.refl _, by simp, fun _ => hover (by rw [isOpen, hclosed])⟩
    · exact hsame
  | device device =>
    exact Or.inr (Or.inr (Or.inr ⟨rfl, List.Perm.refl _, by simp [step], hover⟩))

/-- **No event loses a request.**  Those answered and those that still wait are those that waited
and the one that came. -/
theorem numbers_step (timeouts : Timeouts) (now : Nat) {s : Session σ}
    (hover : s.isOpen = false → s.waiting = []) (event : Event σ) :
    ((replies (s.step timeouts now event).2).map (·.waiter.number) ++
      (s.step timeouts now event).1.waiting.map (·.number)).Perm
      (s.waiting.map (·.number) ++ joined event) := by
  rcases step_cases timeouts now hover event with
    ⟨number, rfl, -, hreplies, hwaiting, -⟩ | ⟨number, rfl, hclosed, heq⟩ | ⟨number, rfl, heq⟩ |
    ⟨hjoined, hsettles⟩
  · have h := congrArg (List.map (·.number)) (Waiting.join_conserves s.waiting ⟨number, now, true⟩)
    rw [List.map_append, List.map_append, List.map_map] at h
    rw [hreplies, hwaiting]
    exact .of_eq h
  · rw [heq, hover hclosed]
    exact List.Perm.refl _
  · rw [heq]
    exact .of_eq (by simp [joined, map_number_leave])
  · have h := hsettles.conserves.map (·.number)
    rw [List.map_append, List.map_map] at h
    rw [hjoined, List.append_nil]
    exact h

/-- A session that is over has nobody left, whatever happens. -/
theorem over_step (timeouts : Timeouts) (now : Nat) {s : Session σ}
    (hover : s.isOpen = false → s.waiting = []) (event : Event σ) :
    (s.step timeouts now event).1.isOpen = false →
      (s.step timeouts now event).1.waiting = [] := by
  rcases step_cases timeouts now hover event with
    ⟨number, rfl, -, -, -, hopen⟩ | ⟨number, rfl, -, heq⟩ | ⟨number, rfl, heq⟩ | ⟨-, hsettles⟩
  · intro h
    rw [hopen] at h
    cases h
  · rw [heq]
    exact hover
  · rw [heq]
    intro h
    simp [hover h, Waiting.leave]
  · exact hsettles.emptied

/-- A session that is over stays over. -/
theorem not_isOpen_step (timeouts : Timeouts) (now : Nat) {s : Session σ} (h : s.isOpen = false)
    (event : Event σ) : (s.step timeouts now event).1.isOpen = false := by
  have hphase : s.phase = .closed ∨ s.phase = .shutDown := by
    rw [isOpen] at h
    cases hp : s.phase with
    | reading | holding chunk | ended => rw [hp] at h; cases h
    | closed => exact Or.inl rfl
    | shutDown => exact Or.inr rfl
  cases event with
  | join number => rw [step_join_of_not_isOpen timeouts now number s h]; exact h
  | leave number => exact h
  | close => exact h
  | forward p =>
    simp only [step, forward]
    split
    · exact h
    · exact h
  | abandon p => exact h
  | read outcome => rcases hphase with hp | hp <;> simp [step, hp, isOpen]
  | wake => rcases hphase with hp | hp <;> simp [step, hp, isOpen]
  | notice =>
    have hended : ¬(s.closing = true ∧ s.isRunning = true) := fun hruns => by
      rw [isOpen_of_isRunning hruns.2] at h
      cases h
    rw [step, if_neg hended]
    exact h
  | release => rcases hphase with hp | hp <;> simp [step, hp, isOpen]
  | shutDown =>
    rw [step]
    split
    · rfl
    · exact h
  | device device => exact h

/-- A loop that has ended stays so. -/
theorem not_isRunning_step (timeouts : Timeouts) (now : Nat) {s : Session σ}
    (h : s.isRunning = false) (event : Event σ) :
    (s.step timeouts now event).1.isRunning = false := by
  have hreading : s.phase ≠ .reading := fun hp => by simp [isRunning, hp] at h
  cases event with
  | join number =>
    rw [step, join]
    split <;> exact h
  | leave number | close | abandon p | device device => exact h
  | forward p =>
    simp only [step, forward]
    split <;> exact h
  | read outcome => rwa [step, if_neg hreading]
  | wake =>
    cases hp : s.phase with
    | holding chunk => simp [isRunning, hp] at h
    | _ => simpa [step, hp] using h
  | notice => simp [step, h]
  | release | shutDown =>
    rw [step]
    split
    · rfl
    · exact h

/-- No more than two wait. -/
theorem length_waiting_step (timeouts : Timeouts) (now : Nat) {s : Session σ}
    (hover : s.isOpen = false → s.waiting = []) (event : Event σ)
    (hle : s.waiting.length ≤ Waiting.capacity) :
    (s.step timeouts now event).1.waiting.length ≤ Waiting.capacity := by
  rcases step_cases timeouts now hover event with
    ⟨number, rfl, -, -, hwaiting, -⟩ | ⟨number, rfl, -, heq⟩ | ⟨number, rfl, heq⟩ | ⟨-, hsettles⟩
  · rw [hwaiting]
    exact Waiting.length_join_le _ _
  · rw [heq]
    exact hle
  · rw [heq]
    exact Nat.le_trans (Nat.le_of_eq (List.length_map _)) hle
  · have h := hsettles.conserves.length_eq
    rw [List.length_append] at h
    omega

/-- The statuses that a request may be answered. -/
theorem status_step (timeouts : Timeouts) (now : Nat) {s : Session σ}
    (hover : s.isOpen = false → s.waiting = []) (event : Event σ) :
    ∀ r ∈ replies (s.step timeouts now event).2,
      r.answer.statusCode ∈ [Status.ok, Status.noContent, Status.gone, Status.tooManyRequests] := by
  intro r hr
  rcases step_cases timeouts now hover event with
    ⟨number, rfl, -, hreplies, -, -⟩ | ⟨number, rfl, -, heq⟩ | ⟨number, rfl, heq⟩ | ⟨-, hsettles⟩
  · rw [hreplies, Waiting.join, Waiting.answerAll, List.mem_map] at hr
    obtain ⟨w, -, rfl⟩ := hr
    simp [Answer.statusCode]
  · rw [heq] at hr
    rw [List.mem_singleton.1 hr]
    simp [Answer.statusCode]
  · rw [heq] at hr
    exact absurd hr List.not_mem_nil
  · have := hsettles.status r hr
    simp only [List.mem_cons, List.not_mem_nil, or_false] at this ⊢
    rcases this with h | h | h
    · exact Or.inl h
    · exact Or.inr (Or.inl h)
    · exact Or.inr (Or.inr (Or.inl h))

/-- **Who is displaced.**  A request is answered 429 only because another one comes while two wait,
and then it is the older of the two. -/
theorem displaced_step (timeouts : Timeouts) (now : Nat) {s : Session σ}
    (hover : s.isOpen = false → s.waiting = []) (event : Event σ)
    (hle : s.waiting.length ≤ Waiting.capacity) {r : Reply}
    (hr : r ∈ replies (s.step timeouts now event).2)
    (hstatus : r.answer.statusCode = Status.tooManyRequests) :
    ∃ number second, event = .join number ∧ s.isOpen = true ∧ s.waiting = [r.waiter, second] ∧
      replies (s.step timeouts now event).2 = [r] ∧
      (s.step timeouts now event).1.waiting = [second, ⟨number, now, true⟩] := by
  rcases step_cases timeouts now hover event with
    ⟨number, rfl, hopen, hreplies, hwaiting, -⟩ | ⟨number, rfl, -, heq⟩ | ⟨number, rfl, heq⟩ |
    ⟨-, hsettles⟩
  · match hq : s.waiting with
    | [] | [_] => rw [hreplies, hq] at hr; exact absurd hr List.not_mem_nil
    | [first, second] =>
      rw [hreplies, hq] at hr
      rw [hreplies, hwaiting, hq]
      obtain rfl := List.mem_singleton.1 hr
      exact ⟨number, second, rfl, hopen, rfl, rfl, rfl⟩
    | _ :: _ :: _ :: _ => rw [hq] at hle; simp [Waiting.capacity] at hle
  · rw [heq] at hr
    rw [List.mem_singleton.1 hr] at hstatus
    exact absurd (show Status.gone = Status.tooManyRequests from hstatus) (by decide)
  · rw [heq] at hr
    exact absurd hr List.not_mem_nil
  · have := hsettles.status r hr
    rw [hstatus] at this
    exact absurd this (by decide)

end Session
end Tunnel
end PollTunnel
