import PollTunnel.Proofs.Circuit.Far

/-!
# Who is given a chunk

A session offers its chunk to the requests that wait, from the oldest on.  Those who have gone away
are passed over, and what they are answered is seen by nobody; the first who is still there is given
the chunk (`Waiting.handOver_cases`).  If nobody is, the chunk stays at hand.

`Hands` says this of any outcome: the chunks at hand are kept, or the one chunk is given to the
oldest who is there.  Every path of the loop does one of the two and leaves the queue in its order
(`Serves`), and so does every event (`hands_step`, `order_step`, `answers_step`).
-/

set_option autoImplicit false

namespace PollTunnel
namespace Tunnel

/-- The requesters who are still there and are answered a payload, with what they get. -/
def Reply.handovers (replies : List Reply) : List (Waiter × Payload) :=
  replies.filterMap fun r =>
    match r.answer, r.waiter.present with
    | .payload p, true => some (r.waiter, p)
    | _, _ => none

theorem Reply.handovers_append (a b : List Reply) :
    Reply.handovers (a ++ b) = Reply.handovers a ++ Reply.handovers b :=
  List.filterMap_append

theorem Reply.map_handovers (replies : List Reply) :
    (Reply.handovers replies).map (·.2) = Reply.handed replies := by
  rw [handovers, List.map_filterMap, handed]
  congr 1
  funext r
  obtain ⟨⟨number, since, present⟩, answer⟩ := r
  cases answer <;> cases present <;> rfl

/-- The queue is searched from the oldest request on. -/
theorem Waiting.handOver_cases (p : Payload) (q : Waiting) :
    (∃ gone w rest, q = gone ++ w :: rest ∧ (∀ g ∈ gone, g.present = false) ∧ w.present = true ∧
      (q.handOver p).2 = some rest ∧ Reply.handovers (q.handOver p).1 = [(w, p)]) ∨
    (∀ g ∈ q, g.present = false) ∧ (q.handOver p).2 = none ∧
      Reply.handovers (q.handOver p).1 = [] := by
  induction q with
  | nil => exact Or.inr ⟨fun g hg => absurd hg List.not_mem_nil, rfl, rfl⟩
  | cons w rest ih =>
    rw [handOver]
    split
    · rename_i hpresent
      refine Or.inl ⟨[], w, rest, rfl, fun g hg => absurd hg List.not_mem_nil, hpresent, rfl, ?_⟩
      simp [Reply.handovers, hpresent]
    · rename_i hpresent
      have habsent : w.present = false := by simpa using hpresent
      have hunseen : ∀ rs, Reply.handovers (⟨w, .payload p⟩ :: rs) = Reply.handovers rs := by
        intro rs
        rw [Reply.handovers, List.filterMap_cons_none (by simp [habsent])]
        rfl
      rcases ih with ⟨gone, v, left, rfl, hgone, hv, hleft, hreplies⟩ | ⟨hgone, hleft, hreplies⟩
      · exact Or.inl ⟨w :: gone, v, left, rfl, List.forall_mem_cons.2 ⟨habsent, hgone⟩, hv, hleft,
          (hunseen _).trans hreplies⟩
      · exact Or.inr ⟨List.forall_mem_cons.2 ⟨habsent, hgone⟩, hleft, (hunseen _).trans hreplies⟩

theorem Waiting.answer_of_mem_handOver (p : Payload) (q : Waiting) :
    ∀ r ∈ (q.handOver p).1, r.answer = .payload p := by
  induction q with
  | nil => exact fun r hr => absurd hr List.not_mem_nil
  | cons w rest ih =>
    rw [handOver]
    split
    · intro r hr
      rw [List.mem_singleton.1 hr]
    · exact List.forall_mem_cons.2 ⟨rfl, ih⟩

namespace Session

variable {σ : Type}

/-- What an outcome does with the chunks at hand, of which some are `offered` to the queue. -/
inductive Hands (q : Waiting) (chunks offered : List Payload) (o : Outcome σ) : Prop where
  /-- Nobody is there who takes what is offered.  The chunks stay at hand if the loop goes on. -/
  | keeps (unseen : Reply.handovers (replies o.2) = [])
      (absent : offered ≠ [] → ∀ w ∈ q, w.present = false)
      (held : o.1.isRunning = true → o.1.held = chunks)
  /-- The oldest requester who is there is given the chunk at hand. -/
  | gives {gone : List Waiter} {w : Waiter} {rest : Waiting} {p : Payload}
      (queue : q = gone ++ w :: rest) (absent : ∀ g ∈ gone, g.present = false)
      (present : w.present = true) (chunk : chunks = [p])
      (given : Reply.handovers (replies o.2) = [(w, p)]) (held : o.1.held = [])

/-- If nothing is offered, it does not matter who waits. -/
theorem Hands.of_unseen {q : Waiting} {chunks : List Payload} {o : Outcome σ}
    (unseen : Reply.handovers (replies o.2) = []) (held : o.1.isRunning = true → o.1.held = chunks) :
    Hands q chunks [] o :=
  .keeps unseen (fun hoffered => absurd rfl hoffered) held

/-- A requester is answered 200 with a payload only. -/
def PayloadsOnly (rs : List Reply) : Prop :=
  ∀ r ∈ rs, r.answer.statusCode = Status.ok → ∃ p, r.answer = .payload p

theorem PayloadsOnly.append {a b : List Reply} (ha : PayloadsOnly a) (hb : PayloadsOnly b) :
    PayloadsOnly (a ++ b) := fun r hr => (List.mem_append.1 hr).elim (ha r) (hb r)

theorem payloadsOnly_answerAll {status : Status} (h : status ≠ Status.ok)
    (waiters : List Waiter) : PayloadsOnly (Waiting.answerAll status waiters) := by
  intro r hr hok
  obtain ⟨w, -, rfl⟩ := List.mem_map.1 hr
  exact absurd hok h

/-- An outcome of the loop, with the queue `q` before it. -/
structure Serves (q : Waiting) (chunks offered : List Payload) (o : Outcome σ) : Prop where
  /-- Those who still wait do so in their old order. -/
  order : o.1.waiting.Sublist q
  answers : PayloadsOnly (replies o.2)
  hands : Hands q chunks offered o

/-! ## The loop -/

/-- With no chunk at hand nothing is given. -/
theorem Yields.nothing {s : Session σ} {o : Outcome σ} (h : Yields [] s o) :
    Reply.handovers (replies o.2) = [] ∧ o.1.held = [] := by
  have hnone : ∀ p, (Reply.handed (replies o.2)).count p = 0 ∧ o.1.held.count p = 0 := by
    intro p
    have := h.flow p
    rw [List.count_nil] at this
    omega
  constructor
  · rw [← List.map_eq_nil_iff, Reply.map_handovers]
    exact List.eq_nil_iff_forall_not_mem.2 fun p => List.count_eq_zero.1 (hnone p).1
  · exact List.eq_nil_iff_forall_not_mem.2 fun p => List.count_eq_zero.1 (hnone p).2

theorem Serves.of_yields {q : Waiting} {s : Session σ} {o : Outcome σ} (h : Yields [] s o)
    (horder : o.1.waiting.Sublist q) (hanswers : PayloadsOnly (replies o.2)) :
    Serves q [] [] o :=
  ⟨horder, hanswers, .of_unseen h.nothing.1 fun _ => h.nothing.2⟩

theorem serves_finish (now : Nat) (cause : Option Error) (s : Session σ) :
    Serves s.waiting [] [] (s.finish now cause) :=
  .of_yields (yields_finish now cause s) (List.Sublist.refl _) fun _ hr =>
    absurd hr List.not_mem_nil

theorem serves_turn (timeouts : Timeouts) (now : Nat) (s : Session σ) :
    Serves s.waiting [] [] (s.turn timeouts now) := by
  have hyields := yields_turn timeouts now s
  rw [turn] at hyields ⊢
  split
  · exact serves_finish now none s
  · split
    · exact serves_finish now _ s
    · rename_i hclosing hidle
      rw [if_neg hclosing, if_neg hidle] at hyields
      refine .of_yields hyields List.filter_sublist ?_
      rw [replies_map_reply]
      exact payloadsOnly_answerAll (by decide) _

theorem serves_deliver (timeouts : Timeouts) (now : Nat) (chunk : Payload) (s : Session σ) :
    Serves s.waiting [chunk] [chunk] (s.deliver timeouts now chunk) := by
  have hpayloads : PayloadsOnly (s.waiting.handOver chunk).1 := fun r hr _ =>
    ⟨chunk, s.waiting.answer_of_mem_handOver chunk r hr⟩
  rcases s.waiting.handOver_cases chunk with
    ⟨gone, w, rest, hqueue, hgone, hpresent, hleft, hgiven⟩ | ⟨habsent, hleft, hgiven⟩
  · -- Once the chunk is given the loop looks at everything anew, and there is nothing left to give.
    have hturn := serves_turn timeouts now { s with waiting := rest }
    obtain ⟨hunseen, hheld⟩ := (yields_turn timeouts now { s with waiting := rest }).nothing
    rw [deliver, show s.waiting.handOver chunk = ((s.waiting.handOver chunk).1, some rest) from
      Prod.ext rfl hleft]
    refine ⟨hturn.order.trans ?_, ?_, .gives hqueue hgone hpresent rfl ?_ hheld⟩
    · rw [hqueue]
      exact (List.sublist_cons_self w rest).trans (List.sublist_append_right gone _)
    · rw [replies_append, replies_map_reply]
      exact hpayloads.append hturn.answers
    · rw [replies_append, replies_map_reply, Reply.handovers_append, hgiven, hunseen]
      rfl
  · rw [deliver, show s.waiting.handOver chunk = ((s.waiting.handOver chunk).1, none) from
      Prod.ext rfl hleft]
    dsimp only
    split
    · let emptied : Session σ := { s with waiting := [] }
      have hfinish := serves_finish now (some (emptied.idleError timeouts now)) emptied
      have hnone := (yields_finish now (some (emptied.idleError timeouts now)) emptied).nothing.1
      refine ⟨List.nil_sublist _, ?_, .keeps ?_ (fun _ => habsent) fun hruns => by cases hruns⟩
      · rw [replies_append, replies_map_reply]
        exact hpayloads.append hfinish.answers
      · rw [replies_append, replies_map_reply, Reply.handovers_append, hgiven]
        exact hnone
    · refine ⟨List.nil_sublist _, ?_, .keeps ?_ (fun _ => habsent) fun _ => rfl⟩
      · rw [replies_map_reply]
        exact hpayloads
      · rw [replies_map_reply, hgiven]

theorem serves_read (timeouts : Timeouts) (now : Nat)
    (outcome : Except Payload.Error Source.Outcome) {s : Session σ} (hreading : s.phase = .reading) :
    Serves s.waiting (s.drawn (.read outcome)) (s.drawn (.read outcome))
      (s.read timeouts now outcome) := by
  match outcome with
  | .error e => exact serves_finish now _ s
  | .ok .timedOut => exact serves_turn timeouts now s
  | .ok (.data data) =>
    simp only [read, receive, drawn, hreading, if_true]
    cases hmake : Payload.make (s.chunks + 1) data with
    | error e => exact serves_finish now _ { s with chunks := s.chunks + 1 }
    | ok chunk =>
      obtain ⟨horder, hanswers, hhands⟩ :=
        serves_deliver timeouts now chunk { s with chunks := s.chunks + 1 }
      refine ⟨horder, hanswers, ?_⟩
      cases hhands with
      | keeps unseen absent held => exact .keeps unseen absent held
      | gives queue absent present chunk given held =>
        exact .gives queue absent present chunk given held

/-! ## All events -/

/-- The chunks that an event makes a session offer to those who wait. -/
def offered (s : Session σ) : Event σ → List Payload
  | .wake => s.held
  | event => s.drawn event

/-- What is neither said to anybody nor changes who waits keeps the chunk. -/
theorem Serves.of_silent {s : Session σ} {chunks : List Payload} {o : Outcome σ}
    (hwaiting : o.1.waiting = s.waiting) (hreplies : replies o.2 = [])
    (hheld : o.1.isRunning = true → o.1.held = chunks) : Serves s.waiting chunks [] o := by
  refine ⟨hwaiting ▸ List.Sublist.refl _, ?_, .of_unseen ?_ hheld⟩
  · rw [hreplies]
    exact fun r hr => absurd hr List.not_mem_nil
  · rw [hreplies]
    rfl

variable [Sink σ]

/-- Every event but the coming and going of requesters is served. -/
theorem serves_step (timeouts : Timeouts) (now : Nat) (s : Session σ) (event : Event σ)
    (hjoin : ∀ number, event ≠ .join number) (hleave : ∀ number, event ≠ .leave number) :
    Serves s.waiting (s.held ++ s.drawn event) (s.offered event) (s.step timeouts now event) := by
  cases event with
  | join number => exact absurd rfl (hjoin number)
  | leave number => exact absurd rfl (hleave number)
  | close | abandon p | device device =>
    exact .of_silent rfl rfl fun _ => (List.append_nil s.held).symm
  | forward p =>
    refine .of_silent ?_ rfl fun _ => (Eq.trans ?_ (List.append_nil s.held).symm)
    · simp only [step, forward]
      split <;> rfl
    · simp only [step, forward]
      split <;> rfl
  | read outcome =>
    rw [step]
    split
    · rename_i hreading
      have hheld : s.held = [] := by rw [held, hreading]
      rw [hheld, List.nil_append]
      exact serves_read timeouts now outcome hreading
    · rename_i hreading
      show Serves s.waiting (s.held ++ s.drawn (.read outcome)) (s.drawn (.read outcome)) _
      rw [drawn_eq_nil hreading, List.append_nil]
      exact .of_silent rfl rfl fun _ => rfl
  | wake =>
    show Serves s.waiting (s.held ++ []) s.held _
    rw [List.append_nil]
    simp only [step]
    split
    · rename_i chunk hphase
      have hheld : s.held = [chunk] := by rw [held, hphase]
      rw [hheld]
      exact serves_deliver timeouts now chunk s
    · rename_i hphase
      rw [held_eq_nil hphase]
      exact .of_silent rfl rfl fun _ => held_eq_nil hphase
  | notice =>
    simp only [step]
    split
    · obtain ⟨horder, hanswers, -⟩ := serves_finish now none s
      exact ⟨horder, hanswers, .of_unseen (yields_finish now none s).nothing.1
        fun hruns => absurd hruns Bool.false_ne_true⟩
    · exact .of_silent rfl rfl fun _ => (List.append_nil s.held).symm
  | release =>
    simp only [step]
    split
    · refine ⟨List.nil_sublist _, ?_, .of_unseen ?_ fun hruns => by cases hruns⟩
      · rw [release, replies_map_reply]
        exact payloadsOnly_answerAll (by decide) s.waiting
      · rw [release, replies_map_reply, ← List.map_eq_nil_iff, Reply.map_handovers]
        exact Reply.handed_answerAll _ _
    · exact .of_silent rfl rfl fun _ => (List.append_nil s.held).symm
  | shutDown =>
    simp only [step]
    split
    · exact .of_silent rfl rfl fun hruns => by cases hruns
    · exact .of_silent rfl rfl fun _ => (List.append_nil s.held).symm

/-- **A chunk is given to the oldest requester who is there, or stays at hand**, whatever happens.
-/
theorem hands_step (timeouts : Timeouts) (now : Nat) (s : Session σ) (event : Event σ) :
    Hands s.waiting (s.held ++ s.drawn event) (s.offered event) (s.step timeouts now event) := by
  cases event with
  | join number =>
    rw [step, join]
    split
    · refine .of_unseen ?_ fun _ => (List.append_nil s.held).symm
      rw [replies_map_reply, ← List.map_eq_nil_iff, Reply.map_handovers]
      exact Reply.handed_answerAll _ _
    · exact .of_unseen rfl fun _ => (List.append_nil s.held).symm
  | leave number => exact .of_unseen rfl fun _ => (List.append_nil s.held).symm
  | _ =>
    exact (serves_step timeouts now s _ (fun _ h => by cases h) fun _ h => by cases h).hands

/-- **Those who wait stand in the order in which they came.** -/
theorem order_step (timeouts : Timeouts) (now : Nat) (s : Session σ) (event : Event σ) :
    ((s.step timeouts now event).1.waiting.map fun w => (w.number, w.since)).Sublist
      (s.waiting.map (fun w => (w.number, w.since)) ++ (joined event).map (·, now)) := by
  cases event with
  | join number =>
    rw [step, join]
    split
    · rw [Waiting.join, List.map_append]
      exact ((List.drop_sublist _ _).map _).append_right _
    · exact List.sublist_append_left _ _
  | leave number =>
    have hsame : (s.waiting.leave number).map (fun w => (w.number, w.since)) =
        s.waiting.map fun w => (w.number, w.since) := by
      rw [Waiting.leave, List.map_map]
      refine List.map_congr_left fun w _ => ?_
      rw [Function.comp_apply]
      split <;> rfl
    show List.Sublist ((s.waiting.leave number).map _) (_ ++ [])
    rw [List.append_nil]
    exact hsame ▸ List.Sublist.refl _
  | _ =>
    show List.Sublist _ (_ ++ [])
    rw [List.append_nil]
    exact (serves_step timeouts now s _ (fun _ h => by cases h) fun _ h => by cases h).order.map _

/-- **An answer of 200 carries a payload.** -/
theorem answers_step (timeouts : Timeouts) (now : Nat) (s : Session σ) (event : Event σ) :
    PayloadsOnly (replies (s.step timeouts now event).2) := by
  cases event with
  | join number =>
    rw [step, join]
    split
    · rw [replies_map_reply]
      exact payloadsOnly_answerAll (by decide) _
    · have hgone : Status.gone ≠ Status.ok := by decide
      exact payloadsOnly_answerAll hgone [⟨number, now, true⟩]
  | leave number => exact fun r hr => absurd hr List.not_mem_nil
  | _ =>
    exact (serves_step timeouts now s _ (fun _ h => by cases h) fun _ h => by cases h).answers

end Session
end Tunnel
end PollTunnel
