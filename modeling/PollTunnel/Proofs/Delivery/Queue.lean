import PollTunnel.Payload.Forwarder
import PollTunnel.Proofs.Delivery.Outlet

/-!
# The queue of a forwarder

What one call to `Forwarder.forward` can do is said once, in `forward_cases`, and what becomes of
the payloads that it lets through in `release_deliver`, or by what is written in `release_cases`.
Nothing later opens either function again.

`InOrder` is what these calls keep of the queue whatever the device does: the payloads that wait are
sorted, leave room for the next one, and are at most `maxQueued`.
-/

set_option autoImplicit false

namespace PollTunnel
namespace Forwarder

variable {σ : Type}

/-! ## Putting a payload into the queue -/

theorem mem_enqueue {p q : Payload} : ∀ {queue : List Payload},
    q ∈ enqueue p queue ↔ q = p ∨ q ∈ queue
  | [] => by simp [enqueue]
  | r :: rest => by
    rw [enqueue]
    split
    · simp
    · rw [List.mem_cons, mem_enqueue, List.mem_cons]
      exact or_left_comm

theorem length_enqueue (p : Payload) : ∀ queue : List Payload,
    (enqueue p queue).length = queue.length + 1
  | [] => rfl
  | r :: rest => by
    rw [enqueue]
    split
    · rfl
    · rw [List.length_cons, length_enqueue p rest, List.length_cons]

theorem pairwise_enqueue {p : Payload} {queue : List Payload}
    (hnew : ∀ q ∈ queue, q.sequence ≠ p.sequence)
    (hq : queue.Pairwise (·.sequence < ·.sequence)) :
    (enqueue p queue).Pairwise (·.sequence < ·.sequence) := by
  induction queue with
  | nil => exact List.pairwise_singleton _ _
  | cons r rest ih =>
    rw [List.pairwise_cons] at hq
    have hr := hnew r List.mem_cons_self
    rw [enqueue]
    split
    · rename_i hlt
      refine List.pairwise_cons.2 ⟨fun q hmem => ?_, List.pairwise_cons.2 hq⟩
      rcases List.mem_cons.1 hmem with rfl | hmem
      · exact hlt
      · exact Nat.lt_trans hlt (hq.1 q hmem)
    · rename_i hge
      refine List.pairwise_cons.2
        ⟨fun q hmem => ?_, ih (fun q hmem => hnew q (List.mem_cons_of_mem r hmem)) hq.2⟩
      rcases mem_enqueue.1 hmem with rfl | hmem
      · omega
      · exact hq.1 q hmem

theorem holds_iff {f : Forwarder σ} {n : Nat} :
    f.holds n = true ↔ ∃ q ∈ f.queue, q.sequence = n := by
  simp [holds]

/-! ## What one call can do -/

variable [Sink σ]

/-- A call drops the payload, lets it through because it is the next one, refuses it, or holds it
back. -/
theorem forward_cases (f : Forwarder σ) (p : Payload) :
    ((p.sequence ≤ f.last ∨ f.holds p.sequence = true) ∧ f.forward p = (.ok (), f)) ∨
    (p.sequence = f.last + 1 ∧ f.holds p.sequence = false ∧
      f.forward p = release f.outlet f.last (p :: f.queue)) ∨
    (f.last + 1 < p.sequence ∧ f.holds p.sequence = false ∧ maxQueued ≤ f.queue.length ∧
      f.forward p = (.error .queueFull, f)) ∨
    (f.last + 1 < p.sequence ∧ f.holds p.sequence = false ∧ f.queue.length < maxQueued ∧
      f.forward p = (.ok (), { f with queue := enqueue p f.queue })) := by
  rw [forward]
  split
  · rename_i hdup
    exact Or.inl ⟨hdup, rfl⟩
  · rename_i hdup
    rw [not_or, Bool.not_eq_true] at hdup
    obtain ⟨hlast, hholds⟩ := hdup
    split
    · rename_i hnext
      exact Or.inr (Or.inl ⟨hnext, hholds, rfl⟩)
    · rename_i hnext
      have hgap : f.last + 1 < p.sequence := by omega
      split
      · rename_i hfull
        exact Or.inr (Or.inr (Or.inl ⟨hgap, hholds, hfull, rfl⟩))
      · rename_i hfull
        exact Or.inr (Or.inr (Or.inr ⟨hgap, hholds, Nat.lt_of_not_le hfull, rfl⟩))

/-- The payloads are numbered without a gap from the number behind `last` on. -/
def Follows (last : Nat) (ps : List Payload) : Prop :=
  ps.map (·.sequence) = List.range' (last + 1) ps.length

theorem Follows.nil (last : Nat) : Follows last [] := rfl

theorem Follows.cons {last : Nat} {p : Payload} {ps : List Payload} (hp : p.sequence = last + 1)
    (h : Follows p.sequence ps) : Follows last (p :: ps) := by
  rw [Follows, List.map_cons, List.length_cons, List.range'_succ, h, hp]

theorem Follows.of_cons {last : Nat} {p : Payload} {ps : List Payload}
    (h : Follows last (p :: ps)) : p.sequence = last + 1 ∧ Follows p.sequence ps := by
  rw [Follows, List.map_cons, List.length_cons, List.range'_succ, List.cons.injEq] at h
  exact ⟨h.1, by rw [Follows, h.1]; exact h.2⟩

theorem Follows.exists_mem {last : Nat} {ps : List Payload} (h : Follows last ps) {k : Nat}
    (hlo : last < k) (hhi : k ≤ last + ps.length) : ∃ p ∈ ps, p.sequence = k := by
  rw [← List.mem_map, h, List.mem_range'_1]
  omega

theorem Follows.le_of_mem {last : Nat} {ps : List Payload} (h : Follows last ps) {p : Payload}
    (hp : p ∈ ps) : p.sequence ≤ last + ps.length := by
  have hmem : p.sequence ∈ ps.map (·.sequence) := List.mem_map_of_mem hp
  rw [h, List.mem_range'_1] at hmem
  omega

theorem Follows.last_lt_of_mem {last : Nat} {ps : List Payload} (h : Follows last ps) {p : Payload}
    (hp : p ∈ ps) : last < p.sequence := by
  have hmem : p.sequence ∈ ps.map (·.sequence) := List.mem_map_of_mem hp
  rw [h, List.mem_range'_1] at hmem
  omega

/-- There are no more payloads than numbers. -/
theorem Follows.add_length_le {last : Nat} {ps : List Payload} (h : Follows last ps)
    (hlast : last ≤ maxSequence) : last + ps.length ≤ maxSequence := by
  rcases Nat.eq_zero_or_pos ps.length with hzero | hpos
  · omega
  · obtain ⟨p, -, hp⟩ := h.exists_mem (k := last + ps.length) (by omega) (Nat.le_refl _)
    exact hp ▸ p.sequence_le

/-- Behind the largest number no payload follows. -/
theorem Follows.eq_nil {last : Nat} {ps : List Payload} (h : Follows last ps)
    (hlast : maxSequence ≤ last) : ps = [] := by
  refine List.eq_nil_iff_forall_not_mem.2 fun p hp => ?_
  have := h.last_lt_of_mem hp
  have := p.sequence_le
  omega

/-- The payloads in front that are numbered without a gap from the number behind `last` on. -/
def consecutive (last : Nat) : List Payload → List Payload
  | [] => []
  | p :: rest => if p.sequence = last + 1 then p :: consecutive p.sequence rest else []

theorem consecutive_cons {last : Nat} {p : Payload} (hp : p.sequence = last + 1)
    (rest : List Payload) :
    consecutive last (p :: rest) = p :: consecutive p.sequence rest := if_pos hp

theorem consecutive_cons_of_ne {last : Nat} {p : Payload} (hp : p.sequence ≠ last + 1)
    (rest : List Payload) : consecutive last (p :: rest) = [] := if_neg hp

theorem follows_consecutive (ps : List Payload) : ∀ last, Follows last (consecutive last ps) := by
  induction ps with
  | nil => exact fun last => .nil last
  | cons p ps ih =>
    intro last
    by_cases hp : p.sequence = last + 1
    · rw [consecutive_cons hp]
      exact (ih p.sequence).cons hp
    · rw [consecutive_cons_of_ne hp]
      exact .nil last

/-- There is a gap behind them, if anything is. -/
theorem head?_ne_of_consecutive {ps : List Payload} : ∀ {last : Nat} {rest : List Payload},
    ps = consecutive last ps ++ rest →
      ∀ q ∈ rest.head?, q.sequence ≠ last + (consecutive last ps).length + 1 := by
  induction ps with
  | nil =>
    intro last rest h q hq
    obtain rfl : rest = [] := h.symm
    cases hq
  | cons p ps ih =>
    intro last rest h q hq
    by_cases hp : p.sequence = last + 1
    · rw [consecutive_cons hp, List.cons_append, List.cons.injEq] at h
      have := ih h.2 q hq
      rw [consecutive_cons hp, List.length_cons]
      omega
    · rw [consecutive_cons_of_ne hp] at h ⊢
      obtain rfl : p :: ps = rest := h
      rw [← Option.some.inj hq]
      exact hp

/-- **The consecutive payloads in front are sent one after another.**  Either all goes well, or the
write of one of them fails: then that payload is gone, and those behind it are left. -/
theorem release_deliver (ps : List Payload) : ∀ (outlet : Outlet σ) (last : Nat),
    (∃ rest outlet', ps = consecutive last ps ++ rest ∧
      outlet.deliver (consecutive last ps) = (consecutive last ps, .ok (), outlet') ∧
      release outlet last ps = (.ok (), ⟨outlet', last + (consecutive last ps).length, rest⟩)) ∨
    (∃ done q rest e outlet₁ outlet', ps = done ++ q :: rest ∧ Follows last done ∧
      q.sequence = last + done.length + 1 ∧
      outlet.deliver (consecutive last ps) = (done, .error e, outlet') ∧
      outlet.deliver done = (done, .ok (), outlet₁) ∧ outlet₁.send q.data = (.error e, outlet') ∧
      release outlet last ps = (.error (.io e), ⟨outlet', last + done.length, rest⟩)) := by
  induction ps with
  | nil =>
    intro outlet last
    exact Or.inl ⟨[], outlet, rfl, rfl, rfl⟩
  | cons p ps ih =>
    intro outlet last
    by_cases hp : p.sequence = last + 1
    · rw [release, if_pos hp, consecutive_cons hp]
      have hlen (done : List Payload) : p.sequence + done.length = last + (p :: done).length := by
        rw [List.length_cons]; omega
      split
      · rename_i outlet₁ hsend
        rcases ih outlet₁ p.sequence with
          ⟨rest, outlet', hsplit, hdeliver, hr⟩ |
          ⟨done, q, rest, e, outlet₂, outlet', rfl, hdone, hq, hdeliver, hdelivered, hfails, hr⟩
        · refine Or.inl ⟨rest, outlet', congrArg (p :: ·) hsplit, ?_, by rw [hr, hlen]⟩
          rw [Outlet.deliver_cons_of_ok hsend, hdeliver]
        · refine Or.inr ⟨p :: done, q, rest, e, outlet₂, outlet', rfl, hdone.cons hp, ?_, ?_, ?_,
            hfails, by rw [hr, hlen]⟩
          · rw [← hlen]; exact hq
          · rw [Outlet.deliver_cons_of_ok hsend, hdeliver]
          · rw [Outlet.deliver_cons_of_ok hsend, hdelivered]
      · rename_i e outlet₁ hsend
        exact Or.inr ⟨[], p, ps, e, outlet, outlet₁, rfl, .nil last, hp,
          Outlet.deliver_cons_of_error hsend _, rfl, hsend, rfl⟩
    · rw [release, if_neg hp, consecutive_cons_of_ne hp]
      exact Or.inl ⟨p :: ps, outlet, rfl, rfl, rfl⟩

/-- The same, by what is written: a part of the payload whose write fails may be. -/
theorem release_cases (ps : List Payload) (outlet : Outlet σ) (last : Nat) :
    (∃ done rest outlet', ps = done ++ rest ∧ Follows last done ∧
      (∀ q ∈ rest.head?, q.sequence ≠ last + done.length + 1) ∧
      outlet'.written = outlet.written ++ done.flatMap (·.data) ∧
      release outlet last ps = (.ok (), ⟨outlet', last + done.length, rest⟩)) ∨
    (∃ done q rest outlet' part e, ps = done ++ q :: rest ∧ Follows last done ∧
      q.sequence = last + done.length + 1 ∧ part <+: q.data ∧
      outlet'.written = outlet.written ++ done.flatMap (·.data) ++ part ∧
      release outlet last ps = (.error (.io e), ⟨outlet', last + done.length, rest⟩)) := by
  rcases release_deliver ps outlet last with
    ⟨rest, outlet', hsplit, hdeliver, hr⟩ |
    ⟨done, q, rest, e, outlet₁, outlet', hsplit, hdone, hq, -, hdelivered, hfails, hr⟩
  · exact Or.inl ⟨consecutive last ps, rest, outlet', hsplit, follows_consecutive ps last,
      head?_ne_of_consecutive hsplit, Outlet.written_deliver hdeliver, hr⟩
  · obtain ⟨part, hpart, hwritten, -⟩ := outlet₁.exists_written_send q.data
    refine Or.inr ⟨done, q, rest, outlet', part, e, hsplit, hdone, hq, hpart, ?_, hr⟩
    rw [← Outlet.written_deliver hdelivered, ← hwritten, hfails]

theorem last_le_forward (f : Forwarder σ) (p : Payload) : f.last ≤ (f.forward p).2.last := by
  rcases forward_cases f p with ⟨-, heq⟩ | ⟨-, -, heq⟩ | ⟨-, -, -, heq⟩ | ⟨-, -, -, heq⟩
  · exact Nat.le_of_eq (by rw [heq])
  · rw [heq]
    rcases release_cases (p :: f.queue) f.outlet f.last with
      ⟨_, _, _, _, _, _, _, hr⟩ | ⟨_, _, _, _, _, _, _, _, _, _, _, hr⟩
    · rw [hr]; exact Nat.le_add_right _ _
    · rw [hr]; exact Nat.le_add_right _ _
  · exact Nat.le_of_eq (by rw [heq])
  · exact Nat.le_of_eq (by rw [heq])

/-! ## What is dropped -/

omit [Sink σ] in
/-- A payload of this number is dropped: one was written before, or waits. -/
def Drops (f : Forwarder σ) (n : Nat) : Prop := n ≤ f.last ∨ f.holds n = true

/-- **A number is dropped only after a payload of that number was forwarded.** -/
theorem drops_forward {f : Forwarder σ} {p : Payload} {n : Nat} (h : (f.forward p).2.Drops n) :
    f.Drops n ∨ p.sequence = n := by
  -- what is written or waits after a release was in the queue before, or is the payload itself
  have hmem : ∀ q ∈ p :: f.queue, q.sequence = n → f.Drops n ∨ p.sequence = n := by
    intro q hq hqn
    rcases List.mem_cons.1 hq with rfl | hq
    · exact Or.inr hqn
    · exact Or.inl (Or.inr (holds_iff.2 ⟨q, hq, hqn⟩))
  have hdone : ∀ done rest, p :: f.queue = done ++ rest → Follows f.last done →
      n ≤ f.last + done.length → f.Drops n ∨ p.sequence = n := by
    intro done rest hsplit hfollows hle
    rcases Nat.lt_or_ge f.last n with hlt | hge
    · obtain ⟨q, hq, hqn⟩ := hfollows.exists_mem hlt hle
      exact hmem q (hsplit ▸ List.mem_append_left rest hq) hqn
    · exact Or.inl (Or.inl hge)
  rcases forward_cases f p with ⟨-, heq⟩ | ⟨-, -, heq⟩ | ⟨-, -, -, heq⟩ | ⟨-, -, -, heq⟩
  · rw [heq] at h
    exact Or.inl h
  · rw [heq] at h
    rcases release_cases (p :: f.queue) f.outlet f.last with
      ⟨done, rest, outlet, hsplit, hfollows, -, -, hr⟩ |
      ⟨done, q, rest, outlet, part, e, hsplit, hfollows, -, -, -, hr⟩
    · rw [hr] at h
      rcases h with hle | hholds
      · exact hdone done rest hsplit hfollows hle
      · obtain ⟨r, hr, hrn⟩ := holds_iff.1 hholds
        exact hmem r (hsplit ▸ List.mem_append_right done hr) hrn
    · rw [hr] at h
      rcases h with hle | hholds
      · exact hdone done (q :: rest) hsplit hfollows hle
      · obtain ⟨r, hr, hrn⟩ := holds_iff.1 hholds
        exact hmem r (hsplit ▸ List.mem_append_right done (List.mem_cons_of_mem q hr)) hrn
  · rw [heq] at h
    exact Or.inl h
  · rw [heq] at h
    rcases h with hle | hholds
    · exact Or.inl (Or.inl hle)
    · obtain ⟨r, hr, hrn⟩ := holds_iff.1 hholds
      exact hmem r (List.mem_cons.2 (mem_enqueue.1 hr)) hrn

/-! ## What every call keeps of the queue -/

/-- The queue is sorted by number and bounded, and the next number is not in it. -/
structure InOrder (f : Forwarder σ) : Prop where
  /-- The payloads that wait have rising numbers. -/
  sorted : f.queue.Pairwise (·.sequence < ·.sequence)
  /-- Each of them waits for a payload that has not come. -/
  above : ∀ q ∈ f.queue, f.last + 1 < q.sequence
  /-- There is room for no more than `maxQueued`. -/
  bounded : f.queue.length ≤ maxQueued

omit [Sink σ] in
theorem inOrder_onto (device : σ) : (onto device).InOrder :=
  ⟨List.Pairwise.nil, fun _ h => absurd h List.not_mem_nil, Nat.zero_le _⟩

omit [Sink σ] in
theorem InOrder.nodup {f : Forwarder σ} (h : f.InOrder) : (f.queue.map (·.sequence)).Nodup :=
  List.pairwise_map.2 (h.sorted.imp fun hlt => Nat.ne_of_lt hlt)

omit [Sink σ] in
/-- The next payload comes before all that wait. -/
theorem InOrder.pairwise_cons {f : Forwarder σ} (h : f.InOrder) {p : Payload}
    (hp : p.sequence = f.last + 1) : (p :: f.queue).Pairwise (·.sequence < ·.sequence) :=
  List.pairwise_cons.2 ⟨fun q hq => by rw [hp]; exact h.above q hq, h.sorted⟩

/-- Behind payloads that follow on from `last`, a sorted list has only greater numbers. -/
theorem Follows.lt_of_mem {last : Nat} {done rest : List Payload} (h : Follows last done)
    (hsorted : (done ++ rest).Pairwise (·.sequence < ·.sequence))
    (habove : ∀ q ∈ done ++ rest, last < q.sequence) {q : Payload} (hq : q ∈ rest) :
    last + done.length < q.sequence := by
  rcases Nat.eq_zero_or_pos done.length with h0 | hpos
  · rw [h0]
    exact habove q (List.mem_append_right done hq)
  · obtain ⟨p, hp, hpk⟩ := h.exists_mem (k := last + done.length) (by omega) (Nat.le_refl _)
    rw [← hpk]
    exact (List.pairwise_append.1 hsorted).2.2 p hp q hq

/-- **Every call keeps the queue in order**, also one whose write fails. -/
theorem InOrder.forward {f : Forwarder σ} (h : f.InOrder) (p : Payload) :
    (f.forward p).2.InOrder := by
  rcases forward_cases f p with ⟨-, heq⟩ | ⟨hp, -, heq⟩ | ⟨-, -, -, heq⟩ | ⟨hp, hnew, hroom, heq⟩
  · rw [heq]; exact h
  · have hsorted := h.pairwise_cons hp
    have habove : ∀ q ∈ p :: f.queue, f.last < q.sequence := by
      intro q hq
      rcases List.mem_cons.1 hq with rfl | hq
      · omega
      · have := h.above q hq; omega
    have hlength : (p :: f.queue).length ≤ maxQueued + 1 := Nat.succ_le_succ h.bounded
    rw [heq]
    rcases release_cases (p :: f.queue) f.outlet f.last with
      ⟨done, rest, outlet, hsplit, hdone, hgap, -, hr⟩ |
      ⟨done, q, rest, outlet, part, e, hsplit, hdone, hq, -, -, hr⟩
    · rw [hsplit] at hsorted habove hlength
      have hne : done ≠ [] := by
        rintro rfl
        rw [List.nil_append] at hsplit
        exact hgap p (by rw [← hsplit]; rfl) hp
      rw [List.length_append] at hlength
      have := List.length_pos_iff.2 hne
      rw [hr]
      refine ⟨(List.pairwise_append.1 hsorted).2.1, fun q hq => ?_, by dsimp only; omega⟩
      -- the first of the rest is not the next one, and the others lie behind it
      cases rest with
      | nil => exact absurd hq List.not_mem_nil
      | cons r rest =>
        have hr := hdone.lt_of_mem hsorted habove (List.mem_cons_self (a := r) (l := rest))
        have hgap := hgap r rfl
        rcases List.mem_cons.1 hq with rfl | hq
        · dsimp only; omega
        · have := (List.pairwise_cons.1 (List.pairwise_append.1 hsorted).2.1).1 q hq
          dsimp only; omega
    · rw [hsplit] at hsorted hlength
      rw [List.length_append, List.length_cons] at hlength
      obtain ⟨hbehind, hrest⟩ := List.pairwise_cons.1 (List.pairwise_append.1 hsorted).2.1
      rw [hr]
      exact ⟨hrest, fun x hx => by rw [← hq]; exact hbehind x hx, by dsimp only; omega⟩
  · rw [heq]; exact h
  · rw [heq]
    refine ⟨pairwise_enqueue (fun q hq hqp => ?_) h.sorted, fun q hq => ?_, ?_⟩
    · rw [holds_iff.2 ⟨q, hq, hqp⟩] at hnew
      cases hnew
    · rcases mem_enqueue.1 hq with rfl | hq
      · exact hp
      · exact h.above q hq
    · rw [length_enqueue]; exact hroom

end Forwarder
end PollTunnel
