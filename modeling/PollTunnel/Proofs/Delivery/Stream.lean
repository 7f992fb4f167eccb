import PollTunnel.Proofs.Delivery.Queue
import PollTunnel.Proofs.Lists

/-!
# What a forwarder has written

`Payload.assembled ps n` is the stream that payloads make up: the bytes of number one, of number
two, and so on up to number `n`.

`Carries seen part f` relates a forwarder to the payloads that were given to it so far.  The numbers
up to `f.last` are all among them, the bytes written are their stream, and behind it `part`: what a
failed write left of the next payload.  It holds from the start and is kept by every call with a
number that was not given before (`Carries.forward`), whatever the device does.  A part once left
stays the last thing written, since its number does not come again.
-/

set_option autoImplicit false

namespace PollTunnel

/-! ## The stream that payloads make up -/

namespace Payload

/-- The bytes of the payload with this number; of several the first counts. -/
def dataAt (ps : List Payload) (k : Nat) : Bytes :=
  ((ps.find? (·.sequence = k)).map (·.data)).getD []

/-- The bytes of the numbers from one to `n`, in their order. -/
def assembled (ps : List Payload) (n : Nat) : Bytes :=
  (List.range n).flatMap fun i => dataAt ps (i + 1)

@[simp] theorem assembled_zero (ps : List Payload) : assembled ps 0 = [] := rfl

theorem assembled_succ (ps : List Payload) (n : Nat) :
    assembled ps (n + 1) = assembled ps n ++ dataAt ps (n + 1) := by
  rw [assembled, List.range_succ, List.flatMap_append, List.flatMap_singleton]
  rfl

theorem nodup_append_singleton {ps : List Payload} (hd : (ps.map (·.sequence)).Nodup) {p : Payload}
    (hnew : ∀ q ∈ ps, q.sequence ≠ p.sequence) : ((ps ++ [p]).map (·.sequence)).Nodup := by
  rw [List.map_append, List.nodup_append]
  refine ⟨hd, List.pairwise_singleton _ _, fun m hm n hn => ?_⟩
  obtain ⟨q, hq, rfl⟩ := List.mem_map.1 hm
  rw [List.map_singleton, List.mem_singleton] at hn
  exact hn ▸ hnew q hq

theorem dataAt_of_mem {ps : List Payload} (hd : (ps.map (·.sequence)).Nodup) {p : Payload}
    (hp : p ∈ ps) : dataAt ps p.sequence = p.data := by
  rw [dataAt, find?_of_nodup (f := Payload.sequence) hd hp]
  rfl

/-- Payloads that come later do not change what a number stands for. -/
theorem dataAt_append_of_mem {ps : List Payload} (qs : List Payload) {p : Payload} (hp : p ∈ ps) :
    dataAt (ps ++ qs) p.sequence = dataAt ps p.sequence := by
  have hfound : (ps.find? (·.sequence = p.sequence)).isSome = true :=
    List.find?_isSome.2 ⟨p, hp, by simp⟩
  rw [dataAt, dataAt, List.find?_append, Option.or_of_isSome hfound]

theorem assembled_append {ps : List Payload} (qs : List Payload) {n : Nat}
    (h : ∀ k, 1 ≤ k → k ≤ n → ∃ p ∈ ps, p.sequence = k) :
    assembled (ps ++ qs) n = assembled ps n := by
  induction n with
  | zero => rfl
  | succ n ih =>
    obtain ⟨p, hp, hpn⟩ := h (n + 1) (Nat.le_add_left 1 n) (Nat.le_refl _)
    rw [assembled_succ, assembled_succ, ih fun k hlo hhi => h k hlo (Nat.le_succ_of_le hhi), ← hpn,
      dataAt_append_of_mem qs hp]

theorem assembled_prefix (ps : List Payload) {m n : Nat} (h : m ≤ n) :
    assembled ps m <+: assembled ps n := by
  induction h with
  | refl => exact List.prefix_refl _
  | step _ ih => exact ih.trans (assembled_succ ps _ ▸ List.prefix_append _ _)

/-- Payloads that follow on from `n`, and count for their numbers, lengthen the stream by their
bytes. -/
theorem assembled_add_length {ps : List Payload} : ∀ {n : Nat} {done : List Payload},
    Forwarder.Follows n done → (∀ p ∈ done, dataAt ps p.sequence = p.data) →
      assembled ps (n + done.length) = assembled ps n ++ done.flatMap (·.data)
  | n, [], _, _ => by simp
  | n, p :: done, h, hdata => by
    obtain ⟨hp, htail⟩ := h.of_cons
    have hlen : n + (p :: done).length = p.sequence + done.length := by
      rw [List.length_cons, hp]; omega
    rw [hlen, assembled_add_length htail fun q hq => hdata q (List.mem_cons_of_mem p hq), hp,
      assembled_succ, ← hp, hdata p List.mem_cons_self, List.flatMap_cons, List.append_assoc]

theorem assembled_follows {ps : List Payload} (hd : (ps.map (·.sequence)).Nodup) {n : Nat}
    {done : List Payload} (h : Forwarder.Follows n done) (hmem : ∀ p ∈ done, p ∈ ps) :
    assembled ps (n + done.length) = assembled ps n ++ done.flatMap (·.data) :=
  assembled_add_length h fun p hp => dataAt_of_mem hd (hmem p hp)

end Payload

/-! ## A forwarder and what was given to it -/

namespace Forwarder

variable {σ : Type}

/-- The forwarder has written the stream of its first `f.last` payloads and then `part`. -/
structure Carries (seen : List Payload) (part : Bytes) (f : Forwarder σ) : Prop where
  inOrder : f.InOrder
  /-- What waits was given to it. -/
  queue_mem : ∀ q ∈ f.queue, q ∈ seen
  /-- No number was skipped. -/
  complete : ∀ k, 1 ≤ k → k ≤ f.last → ∃ p ∈ seen, p.sequence = k
  written : f.outlet.written = Payload.assembled seen f.last ++ part
  /-- The part belongs to the payload whose write failed. -/
  part_of_next : part = [] ∨ ∃ p ∈ seen, p.sequence = f.last + 1 ∧ part <+: p.data

theorem carries_onto (device : σ) : Carries [] [] (onto device) :=
  ⟨inOrder_onto device, fun _ h => h,
    fun _ hlo hhi => absurd hlo (Nat.not_le_of_lt (Nat.lt_succ_of_le hhi)), rfl, Or.inl rfl⟩

/-- A payload that changes nothing may be counted as given. -/
theorem Carries.append {seen : List Payload} {part : Bytes} {f : Forwarder σ}
    (h : Carries seen part f) (p : Payload) : Carries (seen ++ [p]) part f where
  inOrder := h.inOrder
  queue_mem q hq := List.mem_append_left _ (h.queue_mem q hq)
  complete k hlo hhi := by
    obtain ⟨q, hq, hqk⟩ := h.complete k hlo hhi
    exact ⟨q, List.mem_append_left _ hq, hqk⟩
  written := by rw [Payload.assembled_append [p] h.complete]; exact h.written
  part_of_next := h.part_of_next.imp_right fun ⟨q, hq, hqn⟩ => ⟨q, List.mem_append_left _ hq, hqn⟩

/-- The bytes written are an initial part of the stream of what was given. -/
theorem Carries.written_prefix {seen : List Payload} {part : Bytes} {f : Forwarder σ}
    (h : Carries seen part f) (hd : (seen.map (·.sequence)).Nodup) :
    f.outlet.written <+: Payload.assembled seen (f.last + 1) := by
  rw [h.written, Payload.assembled_succ, List.prefix_append_right_inj]
  rcases h.part_of_next with rfl | ⟨p, hp, hpn, hpart⟩
  · exact List.nil_prefix
  · rw [← hpn, Payload.dataAt_of_mem hd hp]
    exact hpart

/-- Two forwarders have the same stream behind them and before them. -/
structure SameStream (f g : Forwarder σ) : Prop where
  last : g.last = f.last
  queue : g.queue = f.queue
  written : g.outlet.written = f.outlet.written

theorem SameStream.refl (f : Forwarder σ) : f.SameStream f := ⟨rfl, rfl, rfl⟩

theorem SameStream.of_eq {f g : Forwarder σ} (h : g = f) : f.SameStream g := h ▸ .refl f

theorem SameStream.trans {f g k : Forwarder σ} (h : f.SameStream g) (h' : g.SameStream k) :
    f.SameStream k :=
  ⟨h'.last.trans h.last, h'.queue.trans h.queue, h'.written.trans h.written⟩

theorem Carries.of_same {seen : List Payload} {part : Bytes} {f g : Forwarder σ}
    (h : Carries seen part f) (hsame : f.SameStream g) : Carries seen part g where
  inOrder := by
    obtain ⟨hsorted, habove, hbounded⟩ := h.inOrder
    refine ⟨?_, ?_, ?_⟩ <;> rw [hsame.queue]
    · exact hsorted
    · rw [hsame.last]
      exact habove
    · exact hbounded
  queue_mem := hsame.queue ▸ h.queue_mem
  complete := hsame.last ▸ h.complete
  written := by rw [hsame.written, hsame.last, h.written]
  part_of_next := hsame.last ▸ h.part_of_next

variable [Sink σ]

/-- **Every call with a new number keeps the stream.**  Only a failed write leaves a part. -/
theorem Carries.forward {seen : List Payload} {part : Bytes} {f : Forwarder σ}
    (h : Carries seen part f) (hd : (seen.map (·.sequence)).Nodup) {p : Payload}
    (hnew : ∀ q ∈ seen, q.sequence ≠ p.sequence) :
    ∃ part', Carries (seen ++ [p]) part' (f.forward p).2 ∧
      ((∀ e, (f.forward p).1 ≠ .error (.io e)) → part' = part) := by
  have hd' := Payload.nodup_append_singleton hd hnew
  have hinOrder := h.inOrder.forward p
  rcases forward_cases f p with ⟨-, heq⟩ | ⟨hp, -, heq⟩ | ⟨-, -, -, heq⟩ | ⟨-, -, -, heq⟩
  · rw [heq]; exact ⟨part, h.append p, fun _ => rfl⟩
  · -- a part would belong to this number, which is new
    have hpart : part = [] := by
      rcases h.part_of_next with hnil | ⟨q, hq, hqn, -⟩
      · exact hnil
      · exact absurd (hqn.trans hp.symm) (hnew q hq)
    have hw := h.written
    rw [hpart, List.append_nil] at hw
    have hmem : ∀ q ∈ p :: f.queue, q ∈ seen ++ [p] := by
      intro q hq
      rcases List.mem_cons.1 hq with rfl | hq
      · exact List.mem_append_right _ (List.mem_singleton_self q)
      · exact List.mem_append_left _ (h.queue_mem q hq)
    -- what was written up to `last + done.length`, and that no number of those is missing
    have hdone : ∀ done rest, p :: f.queue = done ++ rest → Follows f.last done →
        (∀ k, 1 ≤ k → k ≤ f.last + done.length → ∃ q ∈ seen ++ [p], q.sequence = k) ∧
        Payload.assembled (seen ++ [p]) (f.last + done.length) =
          f.outlet.written ++ done.flatMap (·.data) := by
      intro done rest hsplit hfollows
      have hin : ∀ q ∈ done, q ∈ seen ++ [p] := fun q hq =>
        hmem q (hsplit ▸ List.mem_append_left rest hq)
      refine ⟨fun k hlo hhi => ?_, ?_⟩
      · rcases Nat.lt_or_ge f.last k with hk | hk
        · obtain ⟨q, hq, hqk⟩ := hfollows.exists_mem hk hhi
          exact ⟨q, hin q hq, hqk⟩
        · exact (h.append p).complete k hlo hk
      · rw [Payload.assembled_follows hd' hfollows hin, Payload.assembled_append [p] h.complete, hw]
    rw [heq] at hinOrder ⊢
    rcases release_cases (p :: f.queue) f.outlet f.last with
      ⟨done, rest, outlet, hsplit, hfollows, -, hwritten, hr⟩ |
      ⟨done, q, rest, outlet, left, e, hsplit, hfollows, hq, hleft, hwritten, hr⟩
    · rw [hr] at hinOrder ⊢
      obtain ⟨hcomplete, hassembled⟩ := hdone done rest hsplit hfollows
      refine ⟨[], ⟨hinOrder, fun q hq => ?_, hcomplete, ?_, Or.inl rfl⟩, fun _ => hpart.symm⟩
      · exact hmem q (hsplit ▸ List.mem_append_right done hq)
      · rw [hassembled, List.append_nil]; exact hwritten
    · rw [hr] at hinOrder ⊢
      obtain ⟨hcomplete, hassembled⟩ := hdone done (q :: rest) hsplit hfollows
      have hin : ∀ x ∈ q :: rest, x ∈ seen ++ [p] := fun x hx =>
        hmem x (hsplit ▸ List.mem_append_right done hx)
      refine ⟨left, ⟨hinOrder, fun x hx => hin x (List.mem_cons_of_mem q hx), hcomplete, ?_,
        Or.inr ⟨q, hin q List.mem_cons_self, hq, hleft⟩⟩, fun hno => absurd rfl (hno e)⟩
      rw [hassembled]; exact hwritten
  · rw [heq]; exact ⟨part, h.append p, fun _ => rfl⟩
  · have happ := h.append p
    rw [heq] at hinOrder ⊢
    refine ⟨part, ⟨hinOrder, fun q hq => ?_, happ.complete, happ.written, happ.part_of_next⟩,
      fun _ => rfl⟩
    rcases mem_enqueue.1 hq with rfl | hq
    · exact List.mem_append_right _ (List.mem_singleton_self q)
    · exact happ.queue_mem q hq

end Forwarder
end PollTunnel
