import PollTunnel.Proofs.Delivery.Stream

/-!
# A forwarder that is given some of a stream

A sender numbers its chunks one after another (`Forwarder.Follows`).  The network hands some of them
to a forwarder, each once at most and in any order: those `seen` are no more of each payload than
were `sent`.  Then no number comes twice (`nodup_of_count_le`), every call keeps the stream
(`Carries.forward_of_count`), and the bytes written are an initial part of all that was sent
(`Carries.written_prefix_of_count`).
-/

set_option autoImplicit false

namespace PollTunnel

namespace Forwarder

/-! ## The chunks of a sender -/

theorem Follows.nodup {last : Nat} {ps : List Payload} (h : Follows last ps) :
    (ps.map (·.sequence)).Nodup := by
  rw [h]
  exact List.nodup_range'

theorem Follows.append_singleton {last : Nat} {ps : List Payload} (h : Follows last ps)
    {p : Payload} (hp : p.sequence = last + ps.length + 1) : Follows last (ps ++ [p]) := by
  rw [Follows, List.map_append, List.map_singleton, h, List.length_append, List.length_singleton,
    List.range'_concat, hp]
  congr 2
  omega

end Forwarder

namespace Payload

/-! ## No more of each than was sent -/

/-- Of payloads with different numbers no more than there are have different numbers, too. -/
theorem nodup_of_count_le {seen sent : List Payload} (hd : (sent.map (·.sequence)).Nodup)
    (h : ∀ p, seen.count p ≤ sent.count p) :
    (∀ p ∈ seen, p ∈ sent) ∧ (seen.map (·.sequence)).Nodup := by
  have hsub : ∀ p ∈ seen, p ∈ sent := fun p hp =>
    List.count_pos_iff.1 (Nat.lt_of_lt_of_le (List.count_pos_iff.2 hp) (h p))
  have honce := List.nodup_iff_count.1 hd
  have hsent : sent.Nodup := by
    rw [List.nodup_iff_count]
    intro p
    have hle := List.count_le_count_map (f := Payload.sequence) (l := sent) (x := p)
    exact Nat.le_trans hle (honce p.sequence)
  have hseen : seen.Nodup :=
    List.nodup_iff_count.2 fun p => Nat.le_trans (h p) (List.nodup_iff_count.1 hsent p)
  refine ⟨hsub, List.pairwise_map.2 (hseen.imp_of_mem fun {p q} hp hq hne heq => hne ?_)⟩
  exact eq_of_count_map_le_one (honce q.sequence) (hsub p hp) (hsub q hq) heq rfl

/-- What a number stands for is the same among more payloads. -/
theorem dataAt_of_subset {seen sent : List Payload} (hd : (sent.map (·.sequence)).Nodup)
    (hsub : ∀ p ∈ seen, p ∈ sent) {k : Nat} (h : ∃ p ∈ seen, p.sequence = k) :
    dataAt seen k = dataAt sent k := by
  have hfound : (seen.find? (·.sequence = k)).isSome = true :=
    List.find?_isSome.2 (h.imp fun p hp => ⟨hp.1, by simpa using hp.2⟩)
  obtain ⟨q, hq⟩ := Option.isSome_iff_exists.1 hfound
  have hk : q.sequence = k := by simpa using List.find?_some hq
  rw [dataAt, hq, ← hk, dataAt_of_mem hd (hsub q (List.mem_of_find?_eq_some hq))]
  rfl

theorem assembled_of_subset {seen sent : List Payload} (hd : (sent.map (·.sequence)).Nodup)
    (hsub : ∀ p ∈ seen, p ∈ sent) {n : Nat}
    (h : ∀ k, 1 ≤ k → k ≤ n → ∃ p ∈ seen, p.sequence = k) :
    assembled seen n = assembled sent n := by
  induction n with
  | zero => rfl
  | succ n ih =>
    rw [assembled_succ, assembled_succ, ih fun k hlo hhi => h k hlo (Nat.le_succ_of_le hhi),
      dataAt_of_subset hd hsub (h (n + 1) (Nat.le_add_left 1 n) (Nat.le_refl _))]

end Payload

namespace Forwarder

variable {σ : Type}

/-- A forwarder carries every stream that has what was given to it. -/
theorem Carries.mono {seen sent : List Payload} {part : Bytes} {f : Forwarder σ}
    (h : Carries seen part f) (hd : (sent.map (·.sequence)).Nodup)
    (hsub : ∀ p ∈ seen, p ∈ sent) : Carries sent part f where
  inOrder := h.inOrder
  queue_mem q hq := hsub q (h.queue_mem q hq)
  complete k hlo hhi := (h.complete k hlo hhi).imp fun p hp => ⟨hsub p hp.1, hp.2⟩
  written := by rw [h.written, Payload.assembled_of_subset hd hsub h.complete]
  part_of_next := h.part_of_next.imp_right fun ⟨p, hp, hpn⟩ => ⟨p, hsub p hp, hpn⟩

/-- **The bytes written are an initial part of what was sent**, wherever a write may have failed. -/
theorem Carries.written_prefix_of_follows {sent : List Payload} {part : Bytes} {f : Forwarder σ}
    (h : Carries sent part f) (hsent : Follows 0 sent) :
    f.outlet.written <+: sent.flatMap (·.data) := by
  have hall : Payload.assembled sent sent.length = sent.flatMap (·.data) := by
    have := Payload.assembled_follows hsent.nodup hsent fun _ hp => hp
    rwa [Nat.zero_add, Payload.assembled_zero, List.nil_append] at this
  rw [← hall]
  rcases h.part_of_next with rfl | ⟨p, hp, hpn, -⟩
  · rw [h.written, List.append_nil]
    refine Payload.assembled_prefix sent ?_
    rcases Nat.eq_zero_or_pos f.last with hzero | hpos
    · omega
    · obtain ⟨p, hp, hpk⟩ := h.complete f.last hpos (Nat.le_refl _)
      have := hsent.le_of_mem hp
      omega
  · refine (h.written_prefix hsent.nodup).trans (Payload.assembled_prefix sent ?_)
    have := hsent.le_of_mem hp
    omega

/-- The same when the forwarder was given some of it. -/
theorem Carries.written_prefix_of_count {seen sent : List Payload} {part : Bytes}
    {f : Forwarder σ} (h : Carries seen part f) (hsent : Follows 0 sent)
    (hcount : ∀ p, seen.count p ≤ sent.count p) : f.outlet.written <+: sent.flatMap (·.data) :=
  (h.mono hsent.nodup (Payload.nodup_of_count_le hsent.nodup hcount).1).written_prefix_of_follows
    hsent

/-- A forwarder keeps the stream when it is given one more payload of those that were sent. -/
theorem Carries.forward_of_count [Sink σ] {seen sent : List Payload} {part : Bytes}
    {f : Forwarder σ} (h : Carries seen part f) (hd : (sent.map (·.sequence)).Nodup) {p : Payload}
    (hcount : ∀ q, (seen ++ [p]).count q ≤ sent.count q) :
    ∃ part', Carries (seen ++ [p]) part' (f.forward p).2 := by
  have hnodup := (Payload.nodup_of_count_le hd hcount).2
  rw [List.map_append, List.nodup_append] at hnodup
  obtain ⟨hseen, -, hnew⟩ := hnodup
  obtain ⟨part', hafter, -⟩ := h.forward hseen fun q hq =>
    hnew q.sequence (List.mem_map.2 ⟨q, hq, rfl⟩) p.sequence (List.mem_singleton_self _)
  exact ⟨part', hafter⟩

end Forwarder
end PollTunnel
