import PollTunnel.Proofs.Circuit.Inbound
import PollTunnel.Proofs.Circuit.Outbound

/-!
# Both streams arrive as they were sent

Whatever the network does with the requests of a channel and their answers, and whatever happens at
the server and to the devices at both ends, the bytes written to the target are an initial part of
what was written to the channel, and the bytes written to the local device are an initial part of
what the target sent (`run_streams`).  Nothing is repeated, nothing changes its place, and nothing
of one direction gets into the other.
-/

set_option autoImplicit false

namespace PollTunnel
namespace Tunnel
namespace Circuit

variable {σ τ : Type}

/-! ## The start -/

theorem numbered_begin (endpoint : Endpoint) (timeouts : Timeouts) (device : σ) :
    (begin endpoint timeouts device : Circuit σ τ).Numbered where
  tidy := Server.tidy_ofTimeouts timeouts
  once number := by
    have hone : [1].count number ≤ 1 := List.count_le_length
    exact hone
  fresh number hnumber := by
    have hnone : [1].count number = 0 := by
      have hlt : 1 < number := hnumber
      exact List.count_eq_zero.2 (by simp; omega)
    exact hnone
  pending _ h := absurd h List.not_mem_nil

theorem outbound_begin (endpoint : Endpoint) (timeouts : Timeouts) (device : σ) :
    (begin endpoint timeouts device : Circuit σ τ).Outbound [] [] where
  follows := .nil 0
  data := List.nil_prefix
  current _ _ := ⟨rfl, rfl⟩
  underway _ := Nat.le_refl _
  carries k x h := by
    have hnone : (none : Option (Session τ)) = some x := h
    cases hnone

theorem inbound_begin (endpoint : Endpoint) (timeouts : Timeouts) (device : σ) :
    (begin endpoint timeouts device : Circuit σ τ).Inbound [] [] where
  follows := .nil 0
  data := List.nil_prefix
  current _ := rfl
  numbered _ h := absurd h List.not_mem_nil
  fresh _ := rfl
  carries := ⟨[], [], Forwarder.carries_onto device, fun _ => Nat.le_refl _⟩

/-! ## Runs -/

theorem said_cons (event : Event σ τ) (rest : List (Event σ τ)) :
    said (event :: rest) = said [event] ++ said rest := by
  rw [said, said, said, List.flatMap_cons, List.flatMap_singleton]

theorem sent_cons (session : Nat) (event : Event σ τ) (rest : List (Event σ τ)) :
    sent session (event :: rest) = sent session [event] ++ sent session rest := by
  rw [sent, sent, sent, List.flatMap_cons, List.flatMap_singleton]

variable [Sink σ] [Sink τ]

/-- Sessions are never forgotten. -/
theorem length_sessions_le_step (c : Circuit σ τ) (event : Event σ τ) :
    c.server.sessions.length ≤ (c.step event).server.sessions.length := by
  have hfar : ∀ (d : Circuit σ τ) (e : Server.Event τ),
      d.server.sessions.length ≤ (d.far e).server.sessions.length := fun d e =>
    Nat.le_trans (Nat.le_add_right _ _) (Nat.le_of_eq (Server.length_sessions_step d.server e).symm)
  cases event with
  | request number target =>
    simp only [step]
    split
    · exact hfar { c with requests := without c.requests number } _
    · exact Nat.le_refl _
  | server event =>
    simp only [step]
    split
    · exact hfar c _
    · exact Nat.le_refl _
  | read session =>
    simp only [step]
    split
    · split
      · exact hfar { c with sources := _ } _
      · exact Nat.le_refl _
    · exact Nat.le_refl _
  | head number | body number =>
    simp only [step]
    split <;> exact Nat.le_refl _
  | _ => exact Nat.le_refl _

theorem length_sessions_le_run (c : Circuit σ τ) (events : List (Event σ τ)) :
    c.server.sessions.length ≤ (c.run events).server.sessions.length := by
  induction events generalizing c with
  | nil => exact Nat.le_refl _
  | cons event rest ih => exact Nat.le_trans (length_sessions_le_step c event) (ih (c.step event))

theorem Outbound.run {c : Circuit σ τ} {said : Bytes} {posts : List Payload}
    (h : c.Outbound said posts) (events : List (Event σ τ)) :
    ∃ posts', (c.run events).Outbound (said ++ Circuit.said events) posts' := by
  induction events generalizing c said posts with
  | nil => exact ⟨posts, (List.append_nil said).symm ▸ h⟩
  | cons event rest ih =>
    obtain ⟨posts₁, h₁⟩ := h.step event
    rw [said_cons, ← List.append_assoc]
    exact ih h₁

theorem Inbound.run {c : Circuit σ τ} {sent : Bytes} {chunks : List Payload}
    (h : c.Inbound sent chunks) (hnumbered : c.Numbered) (events : List (Event σ τ))
    (hone : (c.run events).server.sessions.length ≤ 1) :
    ∃ chunks', (c.run events).Inbound (sent ++ Circuit.sent 0 events) chunks' := by
  induction events generalizing c sent chunks with
  | nil => exact ⟨chunks, (List.append_nil sent).symm ▸ h⟩
  | cons event rest ih =>
    obtain ⟨chunks₁, h₁⟩ := h.step hnumbered event
      (Nat.le_trans (length_sessions_le_run (c.step event) rest) hone)
    rw [sent_cons, ← List.append_assoc]
    exact ih h₁ (hnumbered.step event) hone

/-- **Both streams arrive as they were sent.**  In every run, and at every moment of it, each
connection to the target was written an initial part of what was written to the channel; and as long
as there was one session only, the local device was written an initial part of what its target
sent. -/
theorem run_streams (endpoint : Endpoint) (timeouts : Timeouts) (device : σ)
    (events : List (Event σ τ)) :
    (∀ x ∈ ((begin endpoint timeouts device).run events).server.sessions,
      x.forwarder.outlet.written <+: said events) ∧
    (((begin endpoint timeouts device).run events).server.sessions.length ≤ 1 →
      ((begin endpoint timeouts device).run events).channel.forwarder.outlet.written <+:
        sent 0 events) := by
  constructor
  · intro x hx
    obtain ⟨posts, h⟩ := (outbound_begin (τ := τ) endpoint timeouts device).run events
    obtain ⟨k, hk⟩ := List.mem_iff_getElem?.1 hx
    obtain ⟨seen, part, hcarries, hcount⟩ := h.carries k x hk
    exact (hcarries.written_prefix_of_count h.follows fun p =>
      Nat.le_trans (Nat.le_add_left _ _) (hcount p)).trans h.data
  · intro hone
    obtain ⟨chunks, h⟩ := (inbound_begin endpoint timeouts device).run
      (numbered_begin endpoint timeouts device) events hone
    obtain ⟨seen, part, hcarries, hcount⟩ := h.carries
    exact (hcarries.written_prefix_of_count h.follows fun p =>
      Nat.le_trans (Nat.le_add_left _ _) (hcount p)).trans h.data

/-- The second payload overtakes the first one, and the answer to its request carries what the
target sent. -/
theorem run_streams_overtaking :
    let endpoint : Endpoint := ⟨⟨"", .domain "far", none, "/", none, none⟩, []⟩
    let events : List (Event SoundSink SoundSink) :=
      [.write [1, 2], .write [3], .request 3 (some ⟨⟩), .server (.join 3), .server (.forward 3),
        .request 2 none, .server (.join 2), .server (.forward 2), .emit 0 (.data [7, 8]), .read 0,
        .head 3, .body 3]
    let c := (begin endpoint {} (⟨⟩ : SoundSink)).run events
    c.server.sessions.length = 1 ∧
      (∀ x ∈ c.server.sessions, x.forwarder.outlet.written <+: said events) ∧
      c.server.sessions.map (·.forwarder.outlet.written) = [[1, 2, 3]] ∧
      c.channel.forwarder.outlet.written <+: sent 0 events ∧
      c.channel.forwarder.outlet.written = [7, 8] := by
  intro endpoint events c
  have hone : c.server.sessions.length = 1 := by decide +kernel
  have hfar : c.server.sessions.map (·.forwarder.outlet.written) = [[1, 2, 3]] := by decide +kernel
  have hnear : c.channel.forwarder.outlet.written = [7, 8] := by decide +kernel
  have hstreams : (∀ x ∈ c.server.sessions, x.forwarder.outlet.written <+: said events) ∧
      (c.server.sessions.length ≤ 1 → c.channel.forwarder.outlet.written <+: sent 0 events) :=
    run_streams (τ := SoundSink) endpoint {} (⟨⟩ : SoundSink) events
  clear_value c
  exact ⟨hone, hstreams.1, hfar, hstreams.2 (Nat.le_of_eq hone), hnear⟩

end Circuit
end Tunnel
end PollTunnel
