import Mathlib.Data.Nat.Find
import PollTunnel.Proofs.Delivery.Share

/-!
# A forwarder whose device fails and recovers

The device may take some of the bytes and then fail, take none, fail to flush, and be sound again at
the next call.  After a failure the forwarder has lost the payload that it was writing, may have
written a part of it, and still holds back those behind it.

* `Payload.stream` is all that can ever be written of some payloads: the bytes of the numbers from
  one on, up to the first number that is missing among them.
* `Forwarder.run` is what calls do, with a device that may change between any two of them.
* `Forwarder.run_writes_stream` is that the stream is never corrupted: what is written is an initial
  part of it at every moment, and a call that ends well has written its payload whole.

The invariant is `Carries`, which every call with a new number keeps whatever the device does.  Here
it is carried through a run, and the number that stops the stream is found.
-/

set_option autoImplicit false

namespace PollTunnel

/-! ## The stream up to the first gap -/

namespace Payload

/-- Some number is missing, since numbers have a bound. -/
theorem exists_missing (ps : List Payload) : ∃ n, ∀ p ∈ ps, p.sequence ≠ n + 1 :=
  ⟨maxSequence, fun p _ heq => absurd p.sequence_le (by omega)⟩

/-- The numbers from one up to this one are all there, and the next one is missing. -/
def reach (ps : List Payload) : Nat := Nat.find (exists_missing ps)

/-- The bytes of the payloads in the order of their numbers, up to the first number that is
missing. -/
def stream (ps : List Payload) : Bytes := assembled ps (reach ps)

theorem reach_missing (ps : List Payload) : ∀ p ∈ ps, p.sequence ≠ reach ps + 1 :=
  Nat.find_spec (exists_missing ps)

theorem le_reach_iff {ps : List Payload} {n : Nat} :
    n ≤ reach ps ↔ ∀ k, 1 ≤ k → k ≤ n → ∃ p ∈ ps, p.sequence = k := by
  constructor
  · intro hn k hlo hhi
    have hmin := Nat.find_min (exists_missing ps) (show k - 1 < reach ps by omega)
    rw [Nat.sub_add_cancel hlo] at hmin
    simpa using hmin
  · refine fun h => Nat.le_of_not_lt fun hlt => ?_
    obtain ⟨p, hp, hpk⟩ := h (reach ps + 1) (Nat.le_add_left 1 _) hlt
    exact reach_missing ps p hp hpk

end Payload

namespace Forwarder

variable {σ : Type}

/-! ## Runs -/

/-- Something that happens to a forwarder. -/
inductive Event (σ : Type) where
  /-- It is given a payload. -/
  | forward (p : Payload)
  /-- Its device changes, and behaves differently from then on. -/
  | device (device : σ)

/-- The payloads that a forwarder is given. -/
def given (events : List (Event σ)) : List Payload :=
  events.filterMap fun
    | .forward p => some p
    | .device _ => none

/-- What an event does, however a call ends. -/
def step [Sink σ] (f : Forwarder σ) : Event σ → Forwarder σ
  | .forward p => (f.forward p).2
  | .device device => { f with outlet := { f.outlet with device } }

/-- What events do one after another. -/
def run [Sink σ] (f : Forwarder σ) (events : List (Event σ)) : Forwarder σ := events.foldl step f

theorem given_append (before after : List (Event σ)) :
    given (before ++ after) = given before ++ given after :=
  List.filterMap_append

variable [Sink σ]

theorem run_append (f : Forwarder σ) (before after : List (Event σ)) :
    f.run (before ++ after) = (f.run before).run after :=
  List.foldl_append

/-- Every event keeps the stream, as long as no number comes twice. -/
theorem Carries.step {seen : List Payload} {part : Bytes} {f : Forwarder σ}
    (h : Carries seen part f) (event : Event σ)
    (hd : ((seen ++ given [event]).map (·.sequence)).Nodup) :
    ∃ part', Carries (seen ++ given [event]) part' (f.step event) := by
  cases event with
  | forward p =>
    obtain ⟨part', hafter⟩ := h.forward_of_count hd fun q => Nat.le_refl ((seen ++ [p]).count q)
    exact ⟨part', hafter⟩
  | device device =>
    rw [given, List.filterMap_cons, List.filterMap_nil, List.append_nil]
    exact ⟨part, h.of_same ⟨rfl, rfl, rfl⟩⟩

/-- **A run keeps the stream**, whatever its device does at which call. -/
theorem Carries.run {seen : List Payload} {part : Bytes} {f : Forwarder σ}
    (h : Carries seen part f) (events : List (Event σ))
    (hd : ((seen ++ given events).map (·.sequence)).Nodup) :
    ∃ part', Carries (seen ++ given events) part' (f.run events) := by
  induction events generalizing seen part f with
  | nil => exact ⟨part, (List.append_nil seen).symm ▸ h⟩
  | cons event rest ih =>
    rw [← List.singleton_append, given_append, ← List.append_assoc] at hd ⊢
    obtain ⟨part₁, h₁⟩ := h.step event (hd.sublist ((List.sublist_append_left _ _).map _))
    exact ih h₁ hd

omit [Sink σ] in
/-- A forwarder does not get beyond the first gap, not even with a part. -/
theorem Carries.written_prefix_stream {seen sent : List Payload} {part : Bytes} {f : Forwarder σ}
    (h : Carries seen part f) (hd : (sent.map (·.sequence)).Nodup) (hsub : ∀ p ∈ seen, p ∈ sent) :
    f.outlet.written <+: Payload.stream sent := by
  have hall := h.mono hd hsub
  rcases hall.part_of_next with rfl | ⟨p, hp, hpn, -⟩
  · rw [hall.written, List.append_nil]
    exact Payload.assembled_prefix sent (Payload.le_reach_iff.2 hall.complete)
  · refine (hall.written_prefix hd).trans (Payload.assembled_prefix sent (Payload.le_reach_iff.2 ?_))
    intro k hlo hhi
    rcases Nat.lt_or_eq_of_le hhi with hlt | rfl
    · exact hall.complete k hlo (Nat.le_of_lt_succ hlt)
    · exact ⟨p, hp, hpn⟩

/-- Bytes are only ever added behind those that are written. -/
theorem written_prefix_forward (f : Forwarder σ) (p : Payload) :
    f.outlet.written <+: (f.forward p).2.outlet.written := by
  rcases forward_cases f p with ⟨-, heq⟩ | ⟨-, -, heq⟩ | ⟨-, -, -, heq⟩ | ⟨-, -, -, heq⟩
  · exact heq ▸ List.prefix_refl _
  · rw [heq]
    rcases release_cases (p :: f.queue) f.outlet f.last with
      ⟨done, rest, outlet, -, -, -, hwritten, hr⟩ |
      ⟨done, q, rest, outlet, part, e, -, -, -, -, hwritten, hr⟩
    · rw [hr, hwritten]
      exact List.prefix_append _ _
    · rw [hr, hwritten, List.append_assoc]
      exact List.prefix_append _ _
  · exact heq ▸ List.prefix_refl _
  · exact heq ▸ List.prefix_refl _

/-- A call that ends well with the next payload has come to it. -/
theorem sequence_le_last_forward {f : Forwarder σ} {p : Payload} (hp : p.sequence = f.last + 1)
    (hok : (f.forward p).1 = .ok ()) (hnew : f.holds p.sequence = false) :
    p.sequence ≤ (f.forward p).2.last := by
  rcases forward_cases f p with ⟨hdup, -⟩ | ⟨-, -, heq⟩ | ⟨hgap, -⟩ | ⟨hgap, -⟩
  · rcases hdup with hle | hholds
    · omega
    · rw [hnew] at hholds
      cases hholds
  · rw [heq] at hok ⊢
    rcases release_cases (p :: f.queue) f.outlet f.last with
      ⟨done, rest, outlet, hsplit, -, hgap, -, hr⟩ | ⟨_, _, _, _, _, e, _, _, _, _, _, hr⟩
    · have hne : done.length ≠ 0 := by
        intro hnil
        obtain rfl := List.eq_nil_of_length_eq_zero hnil
        rw [List.nil_append] at hsplit
        exact hgap p (by rw [← hsplit]; rfl) hp
      rw [hr]
      dsimp only
      omega
    · rw [hr] at hok
      cases hok
  · omega
  · omega

/-- **The stream is never corrupted, whatever the device does.**  Of payloads with different
numbers, in any order, and with devices that fail and recover at will: after each event what is
written is an initial part of their stream up to the first gap, bytes are only ever added behind
those written before, and a call that ends well with the next payload has written the stream up to
its end.  An outlet only ever adds bytes during a call, too, so what is written at a moment within
it is an initial part of what is written at its end, and with that of the stream. -/
theorem run_writes_stream (device : σ) (events : List (Event σ))
    (hd : ((given events).map (·.sequence)).Nodup) :
    (∀ before, before <+: events →
      ((onto device).run before).outlet.written <+: Payload.stream (given events)) ∧
    ∀ before event, before ++ [event] <+: events →
      let f := (onto device).run before
      f.outlet.written <+: (f.step event).outlet.written ∧
        ∀ p, event = .forward p → (f.forward p).1 = .ok () → p.sequence = f.last + 1 →
          Payload.assembled (given events) p.sequence <+: (f.step event).outlet.written := by
  have hcarries : ∀ before, before <+: events → ∃ part,
      Carries (given before) part ((onto device).run before) := by
    rintro before ⟨after, rfl⟩
    rw [given_append, List.map_append] at hd
    exact (carries_onto device).run before (List.nodup_append.1 hd).1
  have hsub : ∀ before, before <+: events → ∀ p ∈ given before, p ∈ given events := by
    rintro before ⟨after, rfl⟩ p hp
    rw [given_append]
    exact List.mem_append_left _ hp
  refine ⟨fun before hbefore => ?_, fun before event hbefore => ⟨?_, ?_⟩⟩
  · obtain ⟨part, h⟩ := hcarries before hbefore
    exact h.written_prefix_stream hd (hsub before hbefore)
  · cases event with
    | forward p => exact written_prefix_forward _ p
    | device device => exact List.prefix_refl _
  · rintro p rfl hok hp
    obtain ⟨part, h⟩ := hcarries before ((List.prefix_append _ _).trans hbefore)
    obtain ⟨part', h'⟩ := hcarries _ hbefore
    have hnew : ((onto device).run before).holds p.sequence = false := by
      rw [← Bool.not_eq_true, holds_iff]
      rintro ⟨q, hq, hqp⟩
      have := h.inOrder.above q hq
      omega
    have hall := h'.mono hd (hsub _ hbefore)
    rw [run_append] at hall
    refine (Payload.assembled_prefix _ (sequence_le_last_forward hp hok hnew)).trans ?_
    have hwritten : ((((onto device).run before).forward p).2).outlet.written = _ := hall.written
    rw [Forwarder.step, hwritten]
    exact List.prefix_append _ _

/-- The third payload comes first.  Then the device takes one byte of the first payload and fails;
it is sound again when the second one comes, which is not written behind the part. -/
theorem run_writes_stream_failing :
    let full : FaultySink := { behaviour := { budget := some 1, failure := some .brokenPipe } }
    let events : List (Event FaultySink) :=
      [.forward ⟨3, [5], by decide, by decide⟩, .device full,
        .forward ⟨1, [1, 2], by decide, by decide⟩, .device {},
        .forward ⟨2, [3, 4], by decide, by decide⟩]
    ((given events).map (·.sequence)).Nodup ∧
      ((onto ({} : FaultySink)).run events).outlet.written <+: Payload.stream (given events) ∧
      ((onto ({} : FaultySink)).run events).outlet.written = [1] := by
  intro full events
  have hd : ((given events).map (·.sequence)).Nodup := by decide
  exact ⟨hd, (run_writes_stream {} events hd).1 events (List.prefix_refl _), by decide +kernel⟩

end Forwarder
end PollTunnel
