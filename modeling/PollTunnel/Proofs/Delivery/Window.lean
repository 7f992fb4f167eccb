import PollTunnel.Proofs.Delivery.Admission
import PollTunnel.Proofs.Delivery.Recovery

/-!
# How far ahead payloads may come

A forwarder refuses a payload when `maxQueued` others wait.  Those that wait have different numbers,
and none of them is the next one.  So the queue is full only if some payload is far ahead of the
stream, and a sender that does not run too far ahead is never refused, in whatever order its
payloads arrive.

* `Payload.Within width ps` — no payload of an arrival is more than `width` numbers ahead of what
  came before it without a gap.
* `forwardAll_within` — of an arrival within 101 numbers everything is taken, and all of it is
  written once nothing is missing.
* `exists_refused_within` — within 102 numbers a payload may be refused.

Numbers may come more than once.  The first payload of a number is the one that counts, among those
that came as among those that were admitted (`Payload.SameFirst`).
-/

set_option autoImplicit false

namespace PollTunnel

namespace Payload

/-! ## Arrivals in a window -/

/-- No payload is more than `width` numbers ahead of those that came before it without a gap. -/
def Within (width : Nat) (ps : List Payload) : Prop :=
  ∀ before p, before ++ [p] <+: ps → p.sequence ≤ reach before + width

theorem reach_mono {ps qs : List Payload} (h : ∀ p ∈ ps, p ∈ qs) : reach ps ≤ reach qs :=
  le_reach_iff.2 fun k hlo hhi =>
    (le_reach_iff.1 (Nat.le_refl (reach ps)) k hlo hhi).imp fun p hp => ⟨h p hp.1, hp.2⟩

/-- The numbers from one to `n` have come, and no others. -/
def Fill (n : Nat) (ps : List Payload) : Prop :=
  ∀ k, (∃ p ∈ ps, p.sequence = k) ↔ 1 ≤ k ∧ k ≤ n

theorem Fill.reach_eq {n : Nat} {ps : List Payload} (h : Fill n ps) : reach ps = n := by
  refine Nat.le_antisymm (Nat.le_of_not_lt fun hlt => ?_)
    (le_reach_iff.2 fun k hlo hhi => (h k).2 ⟨hlo, hhi⟩)
  have := (h (n + 1)).1 (le_reach_iff.1 hlt (n + 1) (Nat.le_add_left 1 n) (Nat.le_refl _))
  omega

theorem within_nil (width : Nat) : Within width [] := fun before p h => by
  simp at h

/-- What is within the window of an arrival may follow it in any order. -/
theorem Within.append {width : Nat} {ps qs : List Payload} (h : Within width ps)
    (hqs : ∀ q ∈ qs, q.sequence ≤ reach ps + width) : Within width (ps ++ qs) := by
  intro before p hbefore
  rcases List.prefix_or_prefix_of_prefix hbefore (List.prefix_append ps qs) with hps | hps
  · exact h before p hps
  · rcases List.prefix_concat_iff.1 hps with heq | ⟨rest, rfl⟩
    · exact h before p (heq ▸ List.prefix_refl ps)
    · rw [List.append_assoc, List.prefix_append_right_inj] at hbefore
      have hp : p ∈ qs := hbefore.subset (List.mem_append_right rest List.mem_cons_self)
      have hreach : reach ps ≤ reach (ps ++ rest) := reach_mono fun q => List.mem_append_left rest
      have := hqs p hp
      omega

/-! ## The first payload of a number -/

/-- For every number the same payload comes first, if any does. -/
def SameFirst (ps qs : List Payload) : Prop :=
  ∀ k, ps.find? (·.sequence = k) = qs.find? (·.sequence = k)

theorem exists_mem_iff_find? {ps : List Payload} {k : Nat} :
    (∃ p ∈ ps, p.sequence = k) ↔ (ps.find? (·.sequence = k)).isSome = true := by
  simp [List.find?_isSome]

theorem SameFirst.exists_mem_iff {ps qs : List Payload} (h : SameFirst ps qs) (k : Nat) :
    (∃ p ∈ ps, p.sequence = k) ↔ ∃ q ∈ qs, q.sequence = k := by
  rw [exists_mem_iff_find?, exists_mem_iff_find?, h k]

theorem SameFirst.assembled_eq {ps qs : List Payload} (h : SameFirst ps qs) (n : Nat) :
    assembled ps n = assembled qs n := by
  simp only [assembled, dataAt, h _]

/-- A payload of a number that has come does not count. -/
theorem SameFirst.append_of_mem {ps qs : List Payload} (h : SameFirst ps qs) {p : Payload}
    (hp : ∃ q ∈ qs, q.sequence = p.sequence) : SameFirst ps (qs ++ [p]) := by
  intro k
  rw [List.find?_append, h k]
  by_cases hk : p.sequence = k
  · rw [Option.or_of_isSome (exists_mem_iff_find?.1 (hk ▸ hp))]
  · rw [List.find?_cons_of_neg (by simpa using hk), List.find?_nil, Option.or_none]

theorem SameFirst.append {ps qs : List Payload} (h : SameFirst ps qs) (rest : List Payload) :
    SameFirst (ps ++ rest) (qs ++ rest) := fun k => by
  rw [List.find?_append, List.find?_append, h k]

end Payload

namespace Forwarder

open Payload (Within Fill SameFirst reach)

variable {σ : Type} [Sink σ]

/-! ## Calls one after another -/

theorem forwardAll_append (f : Forwarder σ) (ps qs : List Payload) :
    (f.forwardAll (ps ++ qs)).1 = (f.forwardAll ps).1 ++ ((f.forwardAll ps).2.forwardAll qs).1 ∧
      (f.forwardAll (ps ++ qs)).2 = ((f.forwardAll ps).2.forwardAll qs).2 := by
  induction ps generalizing f with
  | nil => exact ⟨rfl, rfl⟩
  | cons p ps ih =>
    obtain ⟨hresults, hlast⟩ := ih (f.forward p).2
    exact ⟨congrArg ((f.forward p).1 :: ·) hresults, hlast⟩

/-! ## A forwarder that has refused nothing -/

omit [Sink σ] in
/-- What waits has numbers of its own, all of them behind the next one. -/
theorem InOrder.length_lt {f : Forwarder σ} (h : f.InOrder) {width : Nat}
    (hahead : ∀ q ∈ f.queue, q.sequence ≤ f.last + (width + 1)) {n : Nat}
    (hn : f.last + 1 < n ∧ n ≤ f.last + (width + 1)) (hnew : ∀ q ∈ f.queue, q.sequence ≠ n) :
    f.queue.length < width := by
  have hnodup : (n :: f.queue.map (·.sequence)).Nodup := by
    refine List.nodup_cons.2 ⟨fun hmem => ?_, h.nodup⟩
    obtain ⟨q, hq, hqn⟩ := List.mem_map.1 hmem
    exact hnew q hq hqn
  have hrange : ∀ k ∈ n :: f.queue.map (·.sequence), k ∈ List.range' (f.last + 2) width := by
    refine List.forall_mem_cons.2 ⟨List.mem_range'_1.2 (by omega), List.forall_mem_map.2 fun q hq => ?_⟩
    have := h.above q hq
    have := hahead q hq
    exact List.mem_range'_1.2 (by omega)
  have hlength := hnodup.length_le_of_subset hrange
  rw [List.length_range', List.length_cons, List.length_map] at hlength
  exact hlength

/-- Of all payloads that came the first of each number is admitted, and none waits that is too far
ahead for the queue. -/
structure TakesAll (came adm : List Payload) (f : Forwarder σ) : Prop where
  accounts : Accounts adm f
  same : SameFirst adm came
  ahead : ∀ q ∈ f.queue, q.sequence ≤ f.last + (maxQueued + 1)

theorem takesAll_onto {device : σ} (h : Sink.NeverFails device) : TakesAll [] [] (onto device) :=
  ⟨accounts_onto h, fun _ => rfl, fun _ hq => absurd hq List.not_mem_nil⟩

namespace TakesAll

variable {came adm : List Payload} {f : Forwarder σ}

theorem last_eq (h : TakesAll came adm f) : f.last = reach came := by
  obtain ⟨hcomplete, hgreatest⟩ := h.accounts.isGreatest_last
  refine Nat.le_antisymm (Payload.le_reach_iff.2 fun k hlo hhi => ?_) (hgreatest fun k hlo hhi => ?_)
  · exact (h.same.exists_mem_iff k).1 (hcomplete k hlo hhi)
  · exact (h.same.exists_mem_iff k).2 (Payload.le_reach_iff.1 (Nat.le_refl _) k hlo hhi)

/-- There is room for every payload in the window. -/
theorem forward_ok (h : TakesAll came adm f) {p : Payload}
    (hp : p.sequence ≤ f.last + (maxQueued + 1)) : (f.forward p).1 = .ok () := by
  rcases h.accounts.forward_cases p with ⟨-, heq⟩ | ⟨hnew, hnext, hfull, -⟩ | ⟨-, -, hok⟩
  · rw [heq]
  · have hbehind : f.last < p.sequence := Nat.lt_of_not_le fun hle => by
      obtain ⟨q, hq, hqp⟩ := h.accounts.carries.complete p.sequence p.sequence_pos hle
      exact hnew q hq hqp
    have := h.accounts.carries.inOrder.length_lt h.ahead (n := p.sequence) (by omega)
      fun q hq => hnew q (h.accounts.mem_queue_iff.1 hq).1
    omega
  · exact hok

/-- **A payload in the window is taken**, and then the same holds. -/
theorem forward (h : TakesAll came adm f) {p : Payload}
    (hp : p.sequence ≤ f.last + (maxQueued + 1)) :
    ∃ adm', TakesAll (came ++ [p]) adm' (f.forward p).2 := by
  have hok := h.forward_ok hp
  have haccounts := h.accounts.forward p
  have hmono := last_le_forward f p
  refine ⟨_, haccounts, ?_, fun q hq => ?_⟩
  · by_cases hdup : ∃ q ∈ adm, q.sequence = p.sequence
    · obtain ⟨q, hq, hqp⟩ := hdup
      rw [takeIn_of_mem hq hqp]
      exact h.same.append_of_mem ((h.same.exists_mem_iff _).1 ⟨q, hq, hqp⟩)
    · rw [takeIn_of_new hok fun q hq hqp => hdup ⟨q, hq, hqp⟩]
      exact h.same.append [p]
  · -- what waits now waited before, or is the payload itself
    obtain ⟨hadm, hlast⟩ := haccounts.mem_queue_iff.1 hq
    have hcame : q ∈ adm ∨ q = p := by
      rw [takeIn] at hadm
      split at hadm
      · exact (List.mem_append.1 hadm).imp_right List.mem_singleton.1
      · exact Or.inl hadm
    rcases hcame with hadm | rfl
    · have := h.ahead q (h.accounts.mem_queue_iff.2 ⟨hadm, by omega⟩)
      omega
    · omega

/-- **An arrival in the window is taken.** -/
theorem forwardAll (h : TakesAll came adm f) {ps : List Payload}
    (hps : Within (maxQueued + 1) (came ++ ps)) :
    (∀ result ∈ (f.forwardAll ps).1, result = .ok ()) ∧
      ∃ adm', TakesAll (came ++ ps) adm' (f.forwardAll ps).2 := by
  induction ps generalizing came adm f with
  | nil =>
    rw [List.append_nil]
    exact ⟨fun result hresult => absurd hresult List.not_mem_nil, adm, h⟩
  | cons p ps ih =>
    rw [← List.singleton_append, ← List.append_assoc] at hps ⊢
    have hp : p.sequence ≤ f.last + (maxQueued + 1) :=
      h.last_eq ▸ hps came p (List.prefix_append _ ps)
    obtain ⟨adm', hstep⟩ := h.forward hp
    obtain ⟨hresults, hall⟩ := ih hstep hps
    exact ⟨List.forall_mem_cons.2 ⟨h.forward_ok hp, hresults⟩, hall⟩

/-- When no number is missing, everything is written. -/
theorem of_fill (h : TakesAll came adm f) {n : Nat} (hn : Fill n came) :
    f.last = n ∧ f.queue = [] ∧ f.outlet.written = Payload.assembled came n := by
  have hlast : f.last = n := h.last_eq.trans hn.reach_eq
  refine ⟨hlast, List.eq_nil_iff_forall_not_mem.2 fun q hq => ?_, ?_⟩
  · obtain ⟨hadm, hwaits⟩ := h.accounts.mem_queue_iff.1 hq
    have := (hn q.sequence).1 ((h.same.exists_mem_iff _).1 ⟨q, hadm, rfl⟩)
    omega
  · rw [h.accounts.carries.written, List.append_nil, hlast, h.same.assembled_eq]

end TakesAll

/-! ## Arrivals in the window of the queue -/

omit [Sink σ] in
/-- Consecutive payloads behind those that have come fill the stream up, in whatever order. -/
theorem Follows.fill_append {n : Nat} {ps sent arrived : List Payload} (h : Follows n sent)
    (hps : Fill n ps) (harrived : arrived.Perm sent) :
    Fill (n + sent.length) (ps ++ arrived) := by
  intro k
  constructor
  · rintro ⟨p, hp, rfl⟩
    rcases List.mem_append.1 hp with hp | hp
    · have := (hps p.sequence).1 ⟨p, hp, rfl⟩
      omega
    · exact ⟨p.sequence_pos, h.le_of_mem (harrived.mem_iff.1 hp)⟩
  · rintro ⟨hlo, hhi⟩
    rcases Nat.lt_or_ge n k with hk | hk
    · obtain ⟨p, hp, hpk⟩ := h.exists_mem hk hhi
      exact ⟨p, List.mem_append_right ps (harrived.mem_iff.2 hp), hpk⟩
    · obtain ⟨p, hp, hpk⟩ := (hps k).2 ⟨hlo, hk⟩
      exact ⟨p, List.mem_append_left arrived hp, hpk⟩

omit [Sink σ] in
/-- They count for their numbers, since those are new. -/
theorem Follows.dataAt_append {n : Nat} {ps sent arrived : List Payload} (h : Follows n sent)
    (hps : Fill n ps) (harrived : arrived.Perm sent) {p : Payload} (hp : p ∈ sent) :
    Payload.dataAt (ps ++ arrived) p.sequence = p.data := by
  have hnone : ps.find? (·.sequence = p.sequence) = none := by
    refine List.find?_eq_none.2 fun q hq => ?_
    have hq := (hps q.sequence).1 ⟨q, hq, rfl⟩
    have hp := h.last_lt_of_mem hp
    simp only [decide_eq_true_eq]
    omega
  have hnodup : (arrived.map (·.sequence)).Nodup :=
    (harrived.map (·.sequence)).nodup_iff.2 h.nodup
  have hsome := find?_of_nodup (f := Payload.sequence) hnodup (harrived.mem_iff.2 hp)
  rw [Payload.dataAt, List.find?_append, hnone, Option.none_or, hsome]
  rfl

/-- **Payloads that come within the window of the queue all get through**, in whatever order and
however often, on a device that never fails.  None is refused; once the numbers from one to `n` have
come, and no others, nothing waits and their bytes are written in order; and up to 101 consecutive
payloads may then arrive in any order of their own. -/
theorem forwardAll_within {device : σ} (h : Sink.NeverFails device) {ps : List Payload}
    (hps : Within 101 ps) :
    let f := ((onto device).forwardAll ps).2
    (∀ result ∈ ((onto device).forwardAll ps).1, result = .ok ()) ∧
    ∀ n, Fill n ps →
      (f.queue = [] ∧ f.outlet.written = Payload.assembled ps n) ∧
      ∀ sent arrived, Follows n sent → sent.length ≤ 101 → arrived.Perm sent →
        (∀ result ∈ (f.forwardAll arrived).1, result = .ok ()) ∧
          (f.forwardAll arrived).2.queue = [] ∧
          (f.forwardAll arrived).2.outlet.written = f.outlet.written ++ sent.flatMap (·.data) := by
  intro f
  obtain ⟨hresults, adm, hf⟩ := (takesAll_onto h).forwardAll hps
  rw [List.nil_append] at hf
  refine ⟨hresults, fun n hn => ?_⟩
  obtain ⟨-, hqueue, hwritten⟩ := hf.of_fill hn
  refine ⟨⟨hqueue, hwritten⟩, fun sent arrived hsent hlength harrived => ?_⟩
  have hwindow : Within (maxQueued + 1) (ps ++ arrived) := hps.append fun q hq => by
    have := hsent.le_of_mem (harrived.mem_iff.1 hq)
    rw [hn.reach_eq]
    omega
  obtain ⟨hresults', adm', hg⟩ := hf.forwardAll hwindow
  obtain ⟨-, hqueue', hwritten'⟩ := hg.of_fill (hsent.fill_append hn harrived)
  refine ⟨hresults', hqueue', ?_⟩
  calc (f.forwardAll arrived).2.outlet.written
      = Payload.assembled (ps ++ arrived) (n + sent.length) := hwritten'
    _ = Payload.assembled (ps ++ arrived) n ++ sent.flatMap (·.data) :=
        Payload.assembled_add_length hsent fun p hp => hsent.dataAt_append hn harrived hp
    _ = f.outlet.written ++ sent.flatMap (·.data) := by
        rw [Payload.assembled_append arrived fun k hlo hhi => (hn k).2 ⟨hlo, hhi⟩, hwritten]

/-- Payloads of one octet each, numbered from two on. -/
def fromTwo (count : Nat) (h : count < maxSequence) : List Payload :=
  (List.finRange count).map fun i : Fin count =>
    ⟨i + 2, [UInt8.ofNat i], Nat.succ_pos _, Nat.le_trans (Nat.succ_le_succ i.isLt) h⟩

theorem follows_fromTwo (count : Nat) (h : count < maxSequence) : Follows 1 (fromTwo count h) := by
  refine List.ext_getElem (by simp [fromTwo]) fun i _ _ => ?_
  simp [fromTwo, Nat.add_comm]

theorem length_fromTwo (count : Nat) (h : count < maxSequence) :
    (fromTwo count h).length = count := by
  simp [fromTwo]

/-- After the first payload a hundred and one more come in falling order. -/
theorem forwardAll_within_falling :
    let first : List Payload := [⟨1, [0], by decide, by decide⟩]
    let f := ((onto SoundSink.mk).forwardAll first).2
    let sent := fromTwo 101 (by decide)
    Sink.NeverFails SoundSink.mk ∧ Within 101 first ∧ Fill 1 first ∧ Follows 1 sent ∧
      sent.length = 101 ∧ (f.forwardAll sent.reverse).2.queue = [] ∧
      (f.forwardAll sent.reverse).2.outlet.written = [0] ++ sent.flatMap (·.data) := by
  intro first f sent
  have hsound := Sink.neverFails_soundSink SoundSink.mk
  have hwithin : Within 101 first := (Payload.within_nil 101).append fun q hq => by
    rw [List.mem_singleton.1 hq]
    exact Nat.le_trans (by decide) (Nat.le_add_left 101 _)
  have hfill : Fill 1 first := fun k => by
    simp only [first, List.mem_singleton, exists_eq_left]
    omega
  have hsent : Follows 1 sent := follows_fromTwo 101 (by decide)
  have hlength : sent.length = 101 := length_fromTwo 101 (by decide)
  clear_value sent
  obtain ⟨-, hall⟩ := forwardAll_within hsound hwithin
  obtain ⟨⟨-, hwritten⟩, hwindow⟩ := hall 1 hfill
  obtain ⟨-, hqueue, hwritten'⟩ :=
    hwindow sent sent.reverse hsent (Nat.le_of_eq hlength) (List.reverse_perm sent)
  refine ⟨hsound, hwithin, hfill, hsent, hlength, hqueue, ?_⟩
  rw [hwritten', hwritten]
  rfl

/-- **The window is as wide as it can be.**  If it had one number more, a payload could be refused:
the last of those from two to 102, while the first is missing. -/
theorem exists_refused_within {device : σ} (h : Sink.NeverFails device) :
    ∃ ps, Within 102 ps ∧ .error .queueFull ∈ ((onto device).forwardAll ps).1 := by
  obtain ⟨waiting, hwaiting, hlength⟩ : ∃ sent, Follows 1 sent ∧ sent.length = 100 :=
    ⟨fromTwo 100 (by decide), follows_fromTwo 100 _, length_fromTwo 100 _⟩
  obtain ⟨far, hfar⟩ : ∃ p : Payload, p.sequence = 102 := ⟨⟨102, [], by decide, by decide⟩, rfl⟩
  have hwithin : ∀ width, 101 ≤ width → Within width waiting := fun width hwidth =>
    (Payload.within_nil width).append fun q hq => by
      have := hwaiting.le_of_mem hq
      omega
  refine ⟨waiting ++ [far], (hwithin 102 (by decide)).append fun q hq => ?_, ?_⟩
  · rw [List.mem_singleton.1 hq, hfar]
    exact Nat.le_add_left 102 _
  · obtain ⟨-, adm, hf⟩ := (takesAll_onto h).forwardAll (hwithin 101 (by decide))
    rw [List.nil_append] at hf
    rw [(forwardAll_append _ waiting [far]).1]
    generalize ((onto device).forwardAll waiting).2 = f at hf
    -- nothing can be written, so all of them wait
    have hlast : f.last = 0 := by
      refine Nat.eq_zero_of_not_pos fun hpos => ?_
      obtain ⟨p, hp, hp1⟩ := hf.accounts.carries.complete 1 (Nat.le_refl 1) hpos
      obtain ⟨q, hq, hq1⟩ := (hf.same.exists_mem_iff 1).1 ⟨p, hp, hp1⟩
      have := hwaiting.last_lt_of_mem hq
      omega
    have hall : ∀ k ∈ List.range' 2 100, k ∈ f.queue.map (·.sequence) := by
      intro k hk
      rw [List.mem_range'_1] at hk
      obtain ⟨p, hp, hpk⟩ := (hf.same.exists_mem_iff k).2
        (hwaiting.exists_mem (k := k) (by omega) (by omega))
      exact List.mem_map.2 ⟨p, hf.accounts.mem_queue_iff.2 ⟨hp, by omega⟩, hpk⟩
    have hqueue := List.Nodup.length_le_of_subset List.nodup_range' hall
    rw [List.length_range', List.length_map] at hqueue
    rcases hf.accounts.forward_cases far with ⟨⟨q, hq, hqn⟩, -⟩ | ⟨-, -, -, heq⟩ | ⟨-, hroom, -⟩
    · obtain ⟨r, hr, hrn⟩ := (hf.same.exists_mem_iff far.sequence).1 ⟨q, hq, hqn⟩
      have := hwaiting.le_of_mem hr
      omega
    · refine List.mem_append_right _ ?_
      rw [show (f.forwardAll [far]).1 = [(f.forward far).1] from rfl, heq]
      exact List.mem_singleton_self _
    · have hmax : maxQueued = 100 := rfl
      omega

end Forwarder
end PollTunnel
