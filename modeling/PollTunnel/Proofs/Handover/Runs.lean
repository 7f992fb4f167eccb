import PollTunnel.Proofs.Delivery.Framing
import PollTunnel.Proofs.Delivery.Share
import PollTunnel.Proofs.Handover.Loop

/-!
# The target's output on its way to the requesters

A session numbers the chunks that it reads and hands them over one by one.  A chunk may have to
outlive requesters who have gone away, an empty queue, wake-ups with nobody there and answers to
requests that have waited for too long, and the counter has advanced all the while.

* `Accounts` is the invariant: what was given so far and what is at hand are the chunks that were
  read, in order and with the numbers from one on.
* `run_handsOver` is what it comes to in a run, whatever happens in which order.  Those who are
  given a chunk get the numbers 1, 2, 3 and so on, the oldest who is there first; what they get,
  put together, is an initial part of the target's output.

`Session.reads` is what the target is heard to say in a run.  The last part of the result is about
runs in which that comes from a source.
-/

set_option autoImplicit false

namespace PollTunnel
namespace Tunnel
namespace Session

variable {σ : Type}

/-- What a session hears from its target at an event. -/
def heard (s : Session σ) : Event σ → List (Except Payload.Error Source.Outcome)
  | .read outcome => if s.phase = .reading then [outcome] else []
  | _ => []

/-- What a session hears from its target in a run. -/
def reads [Sink σ] (timeouts : Timeouts) (s : Session σ) :
    List (Nat × Event σ) → List (Except Payload.Error Source.Outcome)
  | [] => []
  | (now, event) :: rest => s.heard event ++ reads timeouts (s.step timeouts now event).1 rest

/-- The requests that come in a run, each with its time. -/
def arrivals (events : List (Nat × Event σ)) : List (Nat × Nat) :=
  events.flatMap fun e => (joined e.2).map (·, e.1)

/-! ## What is heard and what is numbered -/

theorem drawn_isPrefix (s : Session σ) (event : Event σ) :
    (s.drawn event).map (·.data) <+: Source.pieces (s.heard event) := by
  cases event with
  | read outcome =>
    rw [heard]
    split
    · rcases drawn_read s outcome with hnone | hdata
      · rw [hnone]
        exact List.nil_prefix
      · exact hdata ▸ List.prefix_refl _
    · rename_i hreading
      rw [drawn_eq_nil hreading]
      exact List.nil_prefix
  | _ => exact List.nil_prefix

/-- A session that goes on has numbered what it heard. -/
theorem pieces_heard [Sink σ] (timeouts : Timeouts) (now : Nat) {s : Session σ} {event : Event σ}
    (hruns : (s.step timeouts now event).1.isRunning = true) :
    Source.pieces (s.heard event) = (s.drawn event).map (·.data) := by
  cases event with
  | read outcome =>
    rw [step] at hruns
    rw [heard]
    split
    · rename_i hreading
      rw [if_pos hreading] at hruns
      exact (drawn_of_isRunning timeouts now hreading hruns).symm
    · rename_i hreading
      rw [drawn_eq_nil hreading]
      rfl
  | _ => rfl

/-- A session does not read on while it holds a chunk. -/
theorem length_held_add_heard_le (s : Session σ) (event : Event σ) :
    s.held.length + (Source.pieces (s.heard event)).length ≤ 1 := by
  have hheld : s.held.length ≤ 1 := by
    rw [held]
    split
    · exact Nat.le_refl 1
    · exact Nat.zero_le 1
  cases event with
  | read outcome =>
    rw [heard]
    split
    · rename_i hreading
      rw [held, hreading, List.length_nil, Nat.zero_add]
      exact List.length_filterMap_le _ _
    · exact hheld
  | _ => exact hheld

/-- A session whose loop has ended hears nothing and has nothing at hand. -/
theorem silent_of_not_isRunning {s : Session σ} (h : s.isRunning = false) (event : Event σ) :
    s.heard event = [] ∧ s.held ++ s.drawn event = [] := by
  have hreading : s.phase ≠ .reading := by
    intro hphase
    rw [isRunning, hphase] at h
    cases h
  have hheld : s.held = [] := held_eq_nil fun chunk hphase => by
    rw [isRunning, hphase] at h
    cases h
  refine ⟨?_, by rw [hheld, drawn_eq_nil hreading]; rfl⟩
  cases event with
  | read outcome => exact if_neg hreading
  | _ => rfl

/-! ## The invariant -/

/-- The payloads in `given` were handed over, of the chunks in `taken` that were read. -/
structure Accounts (s : Session σ) (given : List Payload) (taken : List Bytes) : Prop where
  follows : Forwarder.Follows 0 given
  data : given.map (·.data) <+: taken
  behind : taken.length ≤ given.length + 1
  /-- While the loop runs nothing is missing: what was not given is at hand. -/
  current : s.isRunning = true → Forwarder.Follows 0 (given ++ s.held) ∧
    (given ++ s.held).map (·.data) = taken ∧ s.chunks = taken.length

theorem accounts_start (timeouts : Timeouts) (now : Nat) (device : σ) :
    Accounts (start timeouts now device) [] [] :=
  ⟨.nil 0, List.prefix_refl _, Nat.zero_le _, fun _ => ⟨.nil 0, rfl, rfl⟩⟩

variable [Sink σ]

/-- **Every event keeps the accounts.** -/
theorem Accounts.step {s : Session σ} {given : List Payload} {taken : List Bytes}
    (h : Accounts s given taken) (timeouts : Timeouts) (now : Nat) (event : Event σ) :
    Accounts (s.step timeouts now event).1
      (given ++ Reply.handed (replies (s.step timeouts now event).2))
      (taken ++ Source.pieces (s.heard event)) := by
  have hhands := hands_step timeouts now s event
  cases hruns : s.isRunning with
  | false =>
    obtain ⟨hheard, hchunks⟩ := silent_of_not_isRunning hruns event
    rw [hheard, show Source.pieces [] = [] from rfl, List.append_nil]
    cases hhands with
    | keeps unseen absent held =>
      rw [← Reply.map_handovers, unseen, List.map_nil, List.append_nil]
      refine ⟨h.follows, h.data, h.behind, fun hafter => ?_⟩
      rw [not_isRunning_step timeouts now hruns event] at hafter
      cases hafter
    | gives queue absent present chunk given held =>
      rw [hchunks] at chunk
      cases chunk
  | true =>
    obtain ⟨hfollows, hdata, hchunks⟩ := h.current hruns
    have hlength : given.length + s.held.length = taken.length := by
      rw [← hdata, List.length_map, List.length_append]
    have hone := length_held_add_heard_le s event
    -- What is at hand now bears the next number, if it is new.
    have hnext : Forwarder.Follows 0 (given ++ (s.held ++ s.drawn event)) := by
      rw [← List.append_assoc]
      rcases drawn_cases s event with hnone | ⟨p, hp, hsequence⟩
      · rw [hnone, List.append_nil]
        exact hfollows
      · rw [hp]
        refine hfollows.append_singleton ?_
        rw [List.length_append, hsequence]
        omega
    have hafter : (s.step timeouts now event).1.isRunning = true →
        (given ++ (s.held ++ s.drawn event)).map (·.data) =
            taken ++ Source.pieces (s.heard event) ∧
          (s.step timeouts now event).1.chunks =
            (taken ++ Source.pieces (s.heard event)).length := by
      intro hafter
      rw [← List.append_assoc, List.map_append, hdata, pieces_heard timeouts now hafter,
        (chunks_step timeouts now s event hafter).2, List.length_append, List.length_map, hchunks]
      exact ⟨rfl, rfl⟩
    cases hhands with
    | keeps unseen absent held =>
      rw [← Reply.map_handovers, unseen, List.map_nil, List.append_nil]
      refine ⟨h.follows, h.data.trans (List.prefix_append _ _), ?_, fun hruns' => ?_⟩
      · rw [List.length_append]
        omega
      · rw [held hruns']
        exact ⟨hnext, hafter hruns'⟩
    | gives queue absent present chunk hgiven held =>
      rw [← Reply.map_handovers, hgiven, List.map_singleton]
      rw [chunk] at hnext hafter
      refine ⟨hnext, ?_, ?_, fun hruns' => ?_⟩
      · rw [← chunk, ← List.append_assoc, List.map_append, hdata]
        exact List.prefix_append_right_inj _ |>.2 (drawn_isPrefix s event)
      · rw [List.length_append, List.length_append, List.length_singleton]
        omega
      · rw [held, List.append_nil]
        exact ⟨hnext, hafter hruns'⟩

/-- A run keeps the accounts. -/
theorem Accounts.run {s : Session σ} {given : List Payload} {taken : List Bytes}
    (h : Accounts s given taken) (timeouts : Timeouts) (events : List (Nat × Event σ)) :
    Accounts (s.run timeouts events).1
      (given ++ Reply.handed (replies (s.run timeouts events).2))
      (taken ++ Source.pieces (s.reads timeouts events)) := by
  induction events generalizing s given taken with
  | nil =>
    rw [show Reply.handed (replies (s.run timeouts []).2) = [] from rfl,
      show Source.pieces (s.reads timeouts []) = [] from rfl, List.append_nil, List.append_nil]
    exact h
  | cons e rest ih =>
    have hrest := ih (h.step timeouts e.1 e.2)
    rw [reads, Source.pieces_append, ← List.append_assoc]
    rw [List.append_assoc, ← Reply.handed_append, ← replies_append] at hrest
    exact hrest

/-- Those who wait came in the run, or waited before it, and stand in the order in which they came.
-/
theorem order_run (timeouts : Timeouts) (s : Session σ) (events : List (Nat × Event σ)) :
    ((s.run timeouts events).1.waiting.map fun w => (w.number, w.since)).Sublist
      (s.waiting.map (fun w => (w.number, w.since)) ++ arrivals events) := by
  induction events generalizing s with
  | nil => exact List.sublist_append_left _ _
  | cons e rest ih =>
    have hstep := (order_step timeouts e.1 s e.2).append_right (arrivals rest)
    rw [List.append_assoc] at hstep
    exact (ih _).trans hstep

theorem answers_run (timeouts : Timeouts) (s : Session σ) (events : List (Nat × Event σ)) :
    PayloadsOnly (replies (s.run timeouts events).2) := by
  induction events generalizing s with
  | nil => exact fun r hr => absurd hr List.not_mem_nil
  | cons e rest ih =>
    rw [run, replies_append]
    exact (answers_step timeouts e.1 s e.2).append (ih _)

/-! ## The result -/

/-- The chunks that are handed over in a run, in order, with those who take them. -/
def handovers (timeouts : Timeouts) (s : Session σ) (events : List (Nat × Event σ)) :
    List (Waiter × Payload) :=
  Reply.handovers (replies (s.run timeouts events).2)

/-- What the requesters of a session are handed in a run. -/
structure HandsOver (timeouts : Timeouts) (s : Session σ) (events : List (Nat × Event σ)) :
    Prop where
  /-- An answer of 200 carries a payload. -/
  answers : PayloadsOnly (replies (s.run timeouts events).2)
  /-- The payloads bear the numbers from one on, without a gap and without repetition. -/
  numbered : (s.handovers timeouts events).map (·.2.sequence) =
    List.range' 1 (s.handovers timeouts events).length
  /-- Each carries the chunk of its number among those that were read. -/
  chunks : (s.handovers timeouts events).map (·.2.data) <+:
    Source.pieces (s.reads timeouts events)
  /-- One chunk at most was read and is not handed over. -/
  behind : (Source.pieces (s.reads timeouts events)).length ≤
    (s.handovers timeouts events).length + 1
  /-- While the loop runs no chunk is lost: what was not handed over is held. -/
  kept : (s.run timeouts events).1.isRunning = true →
    (s.handovers timeouts events).map (·.2.data) ++ (s.run timeouts events).1.held.map (·.data) =
      Source.pieces (s.reads timeouts events)
  /-- Whoever is given a chunk is the oldest of those who wait and are there. -/
  oldest : ∀ before now event after, events = before ++ (now, event) :: after →
    ∀ w p, (w, p) ∈ Reply.handovers (replies
        ((s.run timeouts before).1.step timeouts now event).2) →
      ∃ gone rest, (s.run timeouts before).1.waiting = gone ++ w :: rest ∧
        (∀ g ∈ gone, g.present = false) ∧ w.present = true
  /-- A chunk that is offered is given to somebody if somebody is there. -/
  prompt : ∀ before now event after, events = before ++ (now, event) :: after →
    (s.run timeouts before).1.offered event ≠ [] →
    (∃ w ∈ (s.run timeouts before).1.waiting, w.present = true) →
    Reply.handovers (replies ((s.run timeouts before).1.step timeouts now event).2) ≠ []
  /-- Those who wait stand in the order in which they came. -/
  order : ∀ before after, events = before ++ after →
    ((s.run timeouts before).1.waiting.map fun w => (w.number, w.since)).Sublist (arrivals before)
  /-- If the chunks come from a source, the answers together are an initial part of its bytes. -/
  stream : ∀ (source : Source) n, s.reads timeouts events = (source.readMany n).1 →
    (s.handovers timeouts events).flatMap (·.2.data) <+: source.bytes
  /-- Each answer is then read as the payload that it is. -/
  decoded : ∀ (source : Source) n, s.reads timeouts events = (source.readMany n).1 →
    ∀ given ∈ s.handovers timeouts events,
      Received.ofMessage (Answer.payload given.2).response.toMessage = .ok (.payload given.2)

/-- **The target's output is numbered and handed over without loss, gap or repetition**, in any
order of reads, requests, departures, wake-ups and requests to close. -/
theorem run_handsOver (timeouts : Timeouts) (now : Nat) (device : σ)
    (events : List (Nat × Event σ)) : HandsOver timeouts (start timeouts now device) events := by
  have haccounts := (accounts_start timeouts now device).run timeouts events
  rw [List.nil_append, List.nil_append, ← Reply.map_handovers] at haccounts
  have hdata : ∀ given : List (Waiter × Payload),
      (given.map (·.2)).map (·.data) = given.map (·.2.data) := fun _ => List.map_map
  have hchunks : (handovers timeouts (start timeouts now device) events).map (·.2.data) <+:
      Source.pieces (reads timeouts (start timeouts now device) events) :=
    hdata _ ▸ haccounts.data
  refine
    { answers := answers_run timeouts _ events
      numbered := ?_
      chunks := hchunks
      behind := ?_
      kept := fun hruns => ?_
      oldest := fun before now event after _ w p hmem => ?_
      prompt := fun before now event after _ hoffered hthere hnone => ?_
      order := fun before after _ => order_run timeouts _ before
      stream := fun source n hreads => ?_
      decoded := fun source n hreads given hgiven => ?_ }
  · have hfollows := haccounts.follows
    rwa [Forwarder.Follows, List.map_map, List.length_map] at hfollows
  · have hbehind := haccounts.behind
    rwa [List.length_map] at hbehind
  · have hall := (haccounts.current hruns).2.1
    rwa [List.map_append, hdata] at hall
  · cases hands_step timeouts now (run timeouts _ before).1 event with
    | keeps unseen absent held =>
      rw [unseen] at hmem
      exact absurd hmem List.not_mem_nil
    | gives queue absent present chunk given held =>
      rw [given] at hmem
      obtain ⟨rfl, rfl⟩ := Prod.mk.inj (List.mem_singleton.1 hmem)
      exact ⟨_, _, queue, absent, present⟩
  · cases hands_step timeouts now (run timeouts _ before).1 event with
    | keeps unseen absent held =>
      obtain ⟨w, hw, hpresent⟩ := hthere
      rw [absent hoffered w hw] at hpresent
      cases hpresent
    | gives queue absent present chunk given held =>
      rw [given] at hnone
      cases hnone
  · rw [hreads] at hchunks
    rw [List.flatMap_def, ← source.bytes_readMany n]
    obtain ⟨left, hleft⟩ := hchunks
    rw [← hleft, List.flatten_append, List.append_assoc]
    exact List.prefix_append _ _
  · have hmem : given.2.data ∈ Source.pieces (source.readMany n).1 :=
      hreads ▸ hchunks.subset (List.mem_map_of_mem hgiven)
    have hround := Payload.ofMessage_assignTo given.2 {}
    rwa [if_neg (Source.ne_nil_of_mem_pieces hmem)] at hround

/-- The first requester is gone when the chunk comes, and no other waits.  The chunk outlives him.
-/
example :
    ((start {} 0 (⟨⟩ : SoundSink)).handovers {} [(0, .join 1), (1, .leave 1),
      (2, .read (.ok (.data [97]))), (3, .join 2), (3, .wake)]).map
        (fun given => (given.1.number, given.2.sequence, given.2.data)) = [(2, 1, [97])] := by
  decide

end Session
end Tunnel
end PollTunnel
