import PollTunnel.Proofs.Delivery.Admission
import PollTunnel.Proofs.Delivery.Recovery

/-!
# What a failed write leaves behind

A call writes the payload that is next, and then those that waited for it, one after another.  The
device may fail at any of them, at any byte.  This file accounts for what is left, in every state
that calls and devices can lead to: payloads may come twice here, and with other bytes.

* `Forwarder.due` — what a call has to write.  A call does nothing else with its device
  (`InOrder.outlet_forward`).
* `Forwarder.history` — the payloads that were taken whole and flushed in a run.  They are numbered
  from one on, and `last` is how many they are.
* `Settled` — what holds of a forwarder between any two calls.
* `Failed` — what a call leaves that ends with a failed write.  The payload of that write is gone,
  and all goes on from there when it is forwarded again (`Resumes`).
* `run_accounted` — all of this, after every run.
-/

set_option autoImplicit false

namespace PollTunnel
namespace Forwarder

variable {σ : Type}

/-! ## What waits, by number -/

/-- The payload of this number that waits, if one does. -/
def waiting? (f : Forwarder σ) (n : Nat) : Option Payload := f.queue.find? (·.sequence = n)

theorem InOrder.waiting?_eq_some_iff {f : Forwarder σ} (h : f.InOrder) {n : Nat} {p : Payload} :
    f.waiting? n = some p ↔ p ∈ f.queue ∧ p.sequence = n := by
  constructor
  · intro hp
    exact ⟨List.mem_of_find?_eq_some hp, by simpa using List.find?_some hp⟩
  · rintro ⟨hp, rfl⟩
    exact find?_of_nodup (f := Payload.sequence) h.nodup hp

/-- What holds of a forwarder between any two calls. -/
structure Settled (f : Forwarder σ) : Prop where
  /-- Each payload waits under its own number, and under no other. -/
  keyed : ∀ n p, f.waiting? n = some p ↔ p ∈ f.queue ∧ p.sequence = n
  /-- It waits for one that has not come. -/
  ahead : ∀ p ∈ f.queue, f.last + 2 ≤ p.sequence ∧ p.sequence ≤ Nat.pow 2 63 - 1
  bounded : f.queue.length ≤ 100
  /-- The next number can always be computed in 64 bits. -/
  next_lt : f.last + 1 < Nat.pow 2 64

theorem InOrder.settled {f : Forwarder σ} (h : f.InOrder) (hlast : f.last ≤ maxSequence) :
    f.Settled where
  keyed _ _ := h.waiting?_eq_some_iff
  ahead p hp := ⟨h.above p hp, p.sequence_le⟩
  bounded := h.bounded
  next_lt := Nat.lt_of_le_of_lt (Nat.succ_le_succ hlast) (by decide)

/-! ## What a call does with its device -/

/-- What a call has to write: the payload, if it is the next one, and those that waited for it. -/
def due (f : Forwarder σ) (p : Payload) : List Payload := consecutive f.last (p :: f.queue)

variable [Sink σ]

/-- The payloads that an event has the device take whole and flush. -/
def wrote (f : Forwarder σ) : Event σ → List Payload
  | .forward p => (f.outlet.deliver (f.due p)).1
  | .device _ => []

/-- The payloads that were taken whole and flushed in a run, in order. -/
def history (f : Forwarder σ) : List (Event σ) → List Payload
  | [] => []
  | event :: rest => f.wrote event ++ history (f.step event) rest

variable {f : Forwarder σ}

omit [Sink σ] in
theorem due_other {p : Payload} (hp : p.sequence ≠ f.last + 1) : f.due p = [] :=
  consecutive_cons_of_ne hp f.queue

/-- Only the next payload reaches the device. -/
theorem forward_other {p : Payload} (hp : p.sequence ≠ f.last + 1) :
    (f.forward p).2.outlet = f.outlet ∧ (f.forward p).2.last = f.last ∧
      ∀ e, (f.forward p).1 ≠ .error (.io e) := by
  rcases forward_cases f p with ⟨-, heq⟩ | ⟨hnext, -⟩ | ⟨-, -, -, heq⟩ | ⟨-, -, -, heq⟩
  · rw [heq]; exact ⟨rfl, rfl, nofun⟩
  · exact absurd hnext hp
  · rw [heq]; exact ⟨rfl, rfl, nofun⟩
  · rw [heq]; exact ⟨rfl, rfl, nofun⟩

theorem InOrder.forward_next (h : f.InOrder) {p : Payload} (hp : p.sequence = f.last + 1) :
    f.forward p = release f.outlet f.last (p :: f.queue) := by
  rcases forward_cases f p with ⟨hdup, -⟩ | ⟨-, -, heq⟩ | ⟨hgap, -⟩ | ⟨hgap, -⟩
  · rcases hdup with hle | hholds
    · omega
    · obtain ⟨q, hq, hqp⟩ := holds_iff.1 hholds
      have := h.above q hq
      omega
  · exact heq
  · omega
  · omega

/-- **A call does with its device what is due, and nothing else**, and counts what was written. -/
theorem InOrder.outlet_forward (h : f.InOrder) (p : Payload) :
    (f.forward p).2.outlet = (f.outlet.deliver (f.due p)).2.2 ∧
      (f.forward p).2.last = f.last + (f.wrote (.forward p)).length ∧
      Follows f.last (f.wrote (.forward p)) := by
  by_cases hp : p.sequence = f.last + 1
  · rw [h.forward_next hp, wrote, due]
    rcases release_deliver (p :: f.queue) f.outlet f.last with
      ⟨rest, outlet', -, hdeliver, hr⟩ |
      ⟨done, q, rest, e, outlet₁, outlet', -, hdone, -, hdeliver, -, -, hr⟩
    · rw [hr, hdeliver]
      exact ⟨rfl, rfl, follows_consecutive _ _⟩
    · rw [hr, hdeliver]
      exact ⟨rfl, rfl, hdone⟩
  · obtain ⟨houtlet, hlast, -⟩ := forward_other hp
    rw [wrote, due_other hp]
    exact ⟨houtlet, hlast, .nil f.last⟩

/-! ## What a run has written -/

omit [Sink σ] in
theorem Follows.append {last : Nat} {ps qs : List Payload} (h : Follows last ps)
    (hqs : Follows (last + ps.length) qs) : Follows last (ps ++ qs) := by
  rw [Follows, List.map_append, h, hqs, List.length_append, ← List.range'_append_1]
  congr 2
  omega

theorem InOrder.step (h : f.InOrder) (event : Event σ) :
    (f.step event).InOrder ∧ (f.step event).last = f.last + (f.wrote event).length ∧
      Follows f.last (f.wrote event) := by
  cases event with
  | forward p => exact ⟨h.forward p, (h.outlet_forward p).2⟩
  | device device => exact ⟨⟨h.sorted, h.above, h.bounded⟩, rfl, .nil f.last⟩

/-- **A run counts what was written in it**, and is in order at its end. -/
theorem InOrder.run (h : f.InOrder) (events : List (Event σ)) :
    (f.run events).InOrder ∧ (f.run events).last = f.last + (f.history events).length ∧
      Follows f.last (f.history events) := by
  induction events generalizing f with
  | nil => exact ⟨h, rfl, .nil f.last⟩
  | cons event rest ih =>
    obtain ⟨hstep, hlast, hwrote⟩ := h.step event
    obtain ⟨hrest, hlast', hhistory⟩ := ih hstep
    rw [hlast] at hlast' hhistory
    refine ⟨hrest, ?_, hwrote.append hhistory⟩
    rw [history, List.length_append, ← Nat.add_assoc]
    exact hlast'

/-! ## After a failure -/

/-- **The next payload is written whole when the device is sound**, and so is what waited for it
without a gap. -/
def Resumes (f : Forwarder σ) : Prop :=
  ∀ device p, p.sequence = f.last + 1 →
    let call := (f.step (.device device)).forward p
    let waited := consecutive p.sequence f.queue
    (Sink.NeverFails device → call.1 = .ok ()) ∧
    (call.1 = .ok () →
      call.2.outlet.written = f.outlet.written ++ p.data ++ waited.flatMap (·.data) ∧
        call.2.last = f.last + 1 + waited.length ∧ f.queue = waited ++ call.2.queue ∧
        ∀ q ∈ call.2.queue, call.2.last + 1 < q.sequence)

theorem InOrder.resumes (h : f.InOrder) : f.Resumes := by
  intro device p hp call waited
  have hstep := (h.step (.device device)).1
  have hcall : call = release ⟨device, f.outlet.blocks⟩ f.last (p :: f.queue) :=
    hstep.forward_next hp
  refine ⟨fun hsound => ?_, fun hok => ?_⟩
  · rw [hcall]
    exact (release_of_neverFails (p :: f.queue) ⟨device, f.outlet.blocks⟩ f.last hsound).1
  · rcases release_deliver (p :: f.queue) ⟨device, f.outlet.blocks⟩ f.last with
      ⟨rest, outlet', hsplit, hdeliver, hr⟩ | ⟨_, _, _, e, _, _, -, -, -, -, -, -, hr⟩
    · have hdue : consecutive f.last (p :: f.queue) = p :: waited := consecutive_cons hp f.queue
      rw [hdue] at hsplit hdeliver hr
      have hwritten := Outlet.written_deliver hdeliver
      have habove := (hstep.forward p).above
      rw [show (f.step (.device device)).forward p = call from rfl, hcall, hr] at habove
      rw [hcall, hr]
      refine ⟨?_, ?_, (List.cons.inj hsplit).2, habove⟩
      · rw [List.append_assoc]
        exact hwritten
      · show f.last + (waited.length + 1) = _
        omega
    · rw [hcall, hr] at hok
      cases hok

/-- **A write failed during a call**: that of `q`, which was the payload given or had waited for it.
-/
structure Failed (f : Forwarder σ) (p : Payload) (e : IoError) (q : Payload)
    (after : Forwarder σ) : Prop where
  mem : q ∈ p :: f.queue
  sequence : q.sequence = after.last + 1
  /-- The payload is gone. -/
  gone : after.waiting? (after.last + 1) = none
  /-- All payloads of the call that come before it were taken whole and flushed. -/
  before : f.wrote (.forward p) = (p :: f.queue).filter (·.sequence ≤ after.last)
  /-- It is its write that failed, … -/
  fails : (f.outlet.deliver (f.wrote (.forward p))).2.2.send q.data = (.error e, after.outlet)
  /-- … and a part of it may be written. -/
  written : ∃ part, part <+: q.data ∧ after.outlet.written =
    f.outlet.written ++ (f.wrote (.forward p)).flatMap (·.data) ++ part
  /-- All that waited behind it still waits. -/
  queue : after.queue = f.queue.filter (after.last + 1 < ·.sequence)
  resumes : after.Resumes

omit [Sink σ] in
/-- Around a number, a list with rising numbers is what lies below it and what lies above it. -/
theorem filter_split {done rest : List Payload} {q : Payload} {n : Nat}
    (hdone : ∀ r ∈ done, r.sequence ≤ n) (hq : q.sequence = n + 1)
    (hrest : ∀ r ∈ rest, n + 1 < r.sequence) :
    (done ++ q :: rest).filter (·.sequence ≤ n) = done ∧
      (done ++ q :: rest).filter (n + 1 < ·.sequence) = rest := by
  have hbelow : done.filter (·.sequence ≤ n) = done :=
    List.filter_eq_self.2 fun r hr => decide_eq_true (hdone r hr)
  have hnone : rest.filter (·.sequence ≤ n) = [] := List.filter_eq_nil_iff.2 fun r hr => by
    have := hrest r hr
    simp only [decide_eq_true_eq]
    omega
  have hnone' : done.filter (n + 1 < ·.sequence) = [] := List.filter_eq_nil_iff.2 fun r hr => by
    have := hdone r hr
    simp only [decide_eq_true_eq]
    omega
  have habove : rest.filter (n + 1 < ·.sequence) = rest :=
    List.filter_eq_self.2 fun r hr => decide_eq_true (hrest r hr)
  rw [List.filter_append, List.filter_append, List.filter_cons_of_neg (by simp [hq]),
    List.filter_cons_of_neg (by simp [hq]), hbelow, hnone, hnone', habove]
  exact ⟨List.append_nil done, rfl⟩

theorem InOrder.failed (h : f.InOrder) {p : Payload} {e : IoError}
    (he : (f.forward p).1 = .error (.io e)) : ∃ q, f.Failed p e q (f.forward p).2 := by
  have hp : p.sequence = f.last + 1 := Classical.not_not.1 fun hp => (forward_other hp).2.2 e he
  have hsorted := h.pairwise_cons hp
  have hafter := h.forward p
  rw [h.forward_next hp] at he hafter ⊢
  rcases release_deliver (p :: f.queue) f.outlet f.last with
    ⟨_, _, -, -, hr⟩ |
    ⟨done, q, rest, e', outlet₁, outlet', hsplit, hdone, hq, hdeliver, hdelivered, hfails, hr⟩
  · rw [hr] at he
    cases he
  · rw [hr] at he hafter ⊢
    cases he
    have hwrote : f.wrote (.forward p) = done := congrArg Prod.fst hdeliver
    have habove : ∀ r ∈ rest, f.last + done.length + 1 < r.sequence := hafter.above
    obtain ⟨hbelow, hbehind⟩ := filter_split (fun r hr => hdone.le_of_mem hr) hq habove
    obtain ⟨part, hpart, hwritten, -⟩ := outlet₁.exists_written_send q.data
    rw [hfails, Outlet.written_deliver hdelivered] at hwritten
    refine ⟨q, hsplit ▸ List.mem_append_right done List.mem_cons_self, hq, ?_, ?_, ?_, ?_, ?_,
      hafter.resumes⟩
    · exact List.find?_eq_none.2 fun r hr => by simpa using Nat.ne_of_gt (habove r hr)
    · rw [hwrote, hsplit, hbelow]
    · rw [hwrote, hdelivered]
      exact hfails
    · rw [hwrote]
      exact ⟨part, hpart, hwritten⟩
    · -- the payload that was given lies below the failure
      have hgiven : ¬ f.last + done.length + 1 < p.sequence := by omega
      rw [← hsplit, List.filter_cons_of_neg (by simpa using hgiven)] at hbehind
      exact hbehind.symm

/-! ## After every run -/

/-- **All that holds of a forwarder**, with the payloads that were taken whole and flushed so far.
-/
structure Accounted (f : Forwarder σ) (history : List Payload) : Prop where
  settled : f.Settled
  /-- The numbers that were written are those from one to `last`, each once. -/
  history : history.map (·.sequence) = List.range' 1 f.last
  last_le : ∀ event, f.last ≤ (f.step event).last
  /-- A call does with its device what is due, and nothing else. -/
  device : ∀ p, (f.forward p).2.outlet = (f.outlet.deliver (f.due p)).2.2
  /-- It does nothing at all with a duplicate, … -/
  duplicate : ∀ p, f.Drops p.sequence → f.forward p = (.ok (), f)
  /-- … and leaves the device alone when it holds a payload back or refuses it. -/
  queued : ∀ p, p ∈ (f.forward p).2.queue ∨ (f.forward p).1 = .error .queueFull →
    (f.forward p).2.outlet = f.outlet
  failed : ∀ p e, (f.forward p).1 = .error (.io e) → ∃ q, f.Failed p e q (f.forward p).2

theorem InOrder.queued (h : f.InOrder) {p : Payload}
    (hp : p ∈ (f.forward p).2.queue ∨ (f.forward p).1 = .error .queueFull) :
    p.sequence ≠ f.last + 1 := by
  intro hnext
  rcases hp with hp | hfull
  · have := (h.forward p).above p hp
    have := last_le_forward f p
    omega
  · rw [h.forward_next hnext] at hfull
    rcases release_deliver (p :: f.queue) f.outlet f.last with
      ⟨_, _, -, -, hr⟩ | ⟨_, _, _, _, _, _, -, -, -, -, -, -, hr⟩
    · rw [hr] at hfull
      cases hfull
    · rw [hr] at hfull
      cases hfull

/-- **A forwarder can be accounted for after every run**, whatever is forwarded and however its
device fails and recovers: what waits, what was written, and what any further call does, also one
whose write fails. -/
theorem run_accounted (device : σ) (events : List (Event σ)) :
    ((onto device).run events).Accounted ((onto device).history events) := by
  obtain ⟨h, hlast, hhistory⟩ := (inOrder_onto device).run events
  have hzero : (onto device).last = 0 := rfl
  rw [hzero, Nat.zero_add] at hlast
  rw [hzero] at hhistory
  have hbound := hhistory.add_length_le (Nat.zero_le _)
  generalize (onto device).run events = f at *
  refine ⟨h.settled (by omega), hlast ▸ hhistory, fun event => ?_, fun p => (h.outlet_forward p).1,
    fun p hdup => if_pos hdup, fun p hp => (forward_other (h.queued hp)).1, fun p e he => h.failed he⟩
  rw [(h.step event).2.1]
  exact Nat.le_add_right _ _

/-- Three payloads come before the first one.  The device then takes three octets more, and breaks.
-/
def cascade : List (Event FaultySink) :=
  [.forward ⟨3, [3, 4], by decide, by decide⟩, .forward ⟨5, [5], by decide, by decide⟩,
    .forward ⟨2, [2], by decide, by decide⟩,
    .device { behaviour := { budget := some 3, failure := some .brokenPipe } }]

/-- When the first payload comes, the device breaks in the middle of the third.  That is written
once more on a sound device, from its beginning. -/
theorem run_accounted_cascade :
    let call := ((onto ({} : FaultySink)).run cascade).forward ⟨1, [1], by decide, by decide⟩
    let again := (call.2.step (.device {})).forward ⟨3, [3, 4], by decide, by decide⟩
    call.1 = .error (.io (.plain .brokenPipe)) ∧
      (∃ q, ((onto ({} : FaultySink)).run cascade).Failed ⟨1, [1], by decide, by decide⟩
        (.plain .brokenPipe) q call.2 ∧ q.sequence = 3) ∧
      call.2.queue.map (·.sequence) = [5] ∧ call.2.outlet.written = [1, 2, 3] ∧
      again.2.queue.map (·.sequence) = [5] ∧ again.2.outlet.written = [1, 2, 3, 3, 4] := by
  have hfails : (((onto ({} : FaultySink)).run cascade).forward ⟨1, [1], by decide, by decide⟩).1 =
      .error (.io (.plain .brokenPipe)) := by decide +kernel
  have hlast : (((onto ({} : FaultySink)).run cascade).forward
      ⟨1, [1], by decide, by decide⟩).2.last = 2 := by decide +kernel
  obtain ⟨q, hq⟩ := (run_accounted ({} : FaultySink) cascade).failed _ _ hfails
  exact ⟨hfails, ⟨q, hq, by rw [hq.sequence, hlast]⟩, by decide +kernel, by decide +kernel,
    by decide +kernel, by decide +kernel⟩

end Forwarder
end PollTunnel
