import PollTunnel.Proofs.Pairing.Services

/-!
# One live session at a time

A session is live from when it is opened until it leaves its place.  The server has one place for a
session (`Server.current`) and counts them (`Server.gauge`).

The sessions are opened one after another and leave in the same order, so in a run the two lists of
those that were opened and of those that left are initial parts of the natural numbers (`Tallies`).
Hence the session in place is the live one, and the count is their number (`Tallies.live_eq`,
`Tallies.gauge_eq`).
-/

set_option autoImplicit false

namespace PollTunnel
namespace Tunnel
namespace Server

variable {σ : Type}

/-- The sessions that are opened. -/
def openings (effects : List Effect) : List Nat :=
  effects.filterMap fun
    | .opened session => some session
    | _ => none

/-- The sessions that were opened and did not leave their place. -/
def live (effects : List Effect) : List Nat :=
  (openings effects).filter fun k => k ∉ clearances effects

/-- The number of sessions that are counted as open. -/
def gauge (s : Server σ) : Int := s.metrics.sessions.getD 0

theorem openings_append (a b : List Effect) : openings (a ++ b) = openings a ++ openings b :=
  List.filterMap_append

theorem sessions_count (m : Metrics) (effects : List Session.Effect) :
    (count m effects).sessions = m.sessions := by
  induction effects generalizing m with
  | nil => rfl
  | cons effect rest ih =>
    cases effect with
    | passed direction p => cases direction <;> exact ih _
    | reply _ => exact ih m
    | ended _ => exact ih m

/-- A session is opened by a request that is well-formed, if there is none in place and the target
grants a connection. -/
theorem openings_remark (s : Server σ) (event : Event σ) :
    openings (s.remark event) = (s.opening event).map fun _ => s.sessions.length := by
  cases event with
  | arrive number request target =>
    simp only [remark, arrive, opening]
    cases Received.ofMessage request with
    | error e => rfl
    | ok received => cases s.current <;> cases target <;> rfl
  | clear k =>
    simp only [remark, clear, opening]
    split
    · rfl
    · split <;> rfl
  | _ => rfl

variable [Sink σ]

theorem gauge_act (s : Server σ) (k : Nat) (event : Session.Event σ) :
    (s.act k event).1.gauge = s.gauge := by
  rw [act]
  split
  · rfl
  · simp [gauge, sessions_count]

/-- The sessions answer requests and end. -/
theorem mem_react {s : Server σ} {event : Event σ} {effect : Effect}
    (h : effect ∈ (s.react event).2) :
    (∃ number answer taken, effect = .answer number answer taken) ∨
      ∃ k cause, effect = .ended k cause := by
  rw [react] at h
  split at h
  · rename_i k action _
    rw [act] at h
    split at h
    · exact absurd h List.not_mem_nil
    · obtain ⟨e, -, he⟩ := List.mem_filterMap.1 h
      cases e with
      | reply r =>
        cases he
        exact .inl ⟨_, _, _, rfl⟩
      | ended cause =>
        cases he
        exact .inr ⟨_, _, rfl⟩
      | passed direction p => cases he
  · exact absurd h List.not_mem_nil

theorem openings_step (s : Server σ) (event : Event σ) :
    openings (s.step event).2 = (s.opening event).map fun _ => s.sessions.length := by
  have hnone : openings (s.react event).2 = [] := by
    refine List.filterMap_eq_nil_iff.2 fun effect heffect => ?_
    obtain ⟨_, _, _, rfl⟩ | ⟨_, _, rfl⟩ := mem_react heffect <;> rfl
  rw [(step_reacts s event).2, openings_append, hnone, List.nil_append, openings_remark]

theorem gauge_step (s : Server σ) (event : Event σ) :
    (s.step event).1.gauge =
      s.gauge + (openings (s.remark event)).length - (clearances (s.remark event)).length := by
  have hkept : ∀ t : Server σ, t.gauge = s.gauge →
      t.gauge = s.gauge + (openings []).length - (clearances []).length := by
    intro t ht
    simpa [openings, clearances] using ht
  cases event with
  | arrive number request target =>
    simp only [step, arrive, remark]
    cases Received.ofMessage request with
    | error e => simp [openings, clearances]
    | ok received =>
      cases s.current <;> cases target <;>
        simp [openings, clearances, gauge, openSession, Metrics.sessionOpened]
  | clear k =>
    simp only [step, clear, remark]
    split
    · exact hkept s rfl
    · split
      · simp [openings, clearances, gauge, Metrics.sessionClosed]
      · exact hkept s rfl
  | join number =>
    refine hkept _ ?_
    simp only [step, join]
    split
    · rfl
    · split <;> exact gauge_act _ _ _
  | disconnect number =>
    refine hkept _ ?_
    simp only [step, disconnect]
    split
    · rfl
    · exact gauge_act _ _ _
  | forward number =>
    refine hkept _ ?_
    simp only [step, forward]
    split
    · rfl
    · split
      · exact gauge_act _ _ _
      · rfl
  | abandon number =>
    refine hkept _ ?_
    simp only [step, abandon]
    split
    · rfl
    · split
      · exact gauge_act _ _ _
      · rfl
  | write number =>
    refine hkept _ ?_
    simp only [step, write]
    split
    · rfl
    · split <;> rfl
  | shutDown k =>
    refine hkept _ ?_
    simp only [step]
    split
    · rfl
    · exact gauge_act _ _ _
  | leave | pass => exact hkept _ rfl
  | _ => exact hkept _ (gauge_act _ _ _)

/-! ## Sessions come and go in order -/

/-- A session that leaves its place is the one whose turn it is. -/
theorem clearances_step {s : Server σ} (h : s.Single) (event : Event σ) :
    clearances (s.step event).2 = List.range' s.turn (clearances (s.step event).2).length := by
  have hturn := turn_step h event
  obtain ⟨hcurrent, hopening⟩ | ⟨k, rfl, hplace, -, heffects, -⟩ | ⟨-, -, heffects, -⟩ :=
    current_step_cases s event
  · have hlength := length_sessions_step s event
    rw [turn, turn, hcurrent, hlength, hopening, List.length_nil, Nat.add_zero] at hturn
    have hnone : (clearances (s.step event).2).length = 0 := by omega
    rw [List.eq_nil_of_length_eq_zero hnone]
    rfl
  · have hk : s.turn = k := by rw [turn, hplace]; rfl
    rw [heffects, hk]
    rfl
  · rw [heffects]
    rfl

/-- What was opened and what left its place, up to a state of a run. -/
structure Tallies (s : Server σ) (effects : List Effect) : Prop where
  single : s.Single
  opened : openings effects = List.range s.sessions.length
  left : clearances effects = List.range s.turn
  counted : s.gauge = s.sessions.length - s.turn

omit [Sink σ] in
theorem tallies_ofTimeouts (timeouts : Timeouts) : (ofTimeouts timeouts : Server σ).Tallies [] :=
  ⟨single_ofTimeouts timeouts, rfl, rfl, rfl⟩

theorem Tallies.step {s : Server σ} {effects : List Effect} (h : s.Tallies effects)
    (event : Event σ) : (s.step event).1.Tallies (effects ++ (s.step event).2) := by
  have hlength := length_sessions_step s event
  have hturn := turn_step h.single event
  have hremark : (openings (s.remark event)).length = (s.opening event).length := by
    rw [openings_remark, List.length_map]
  have hleft : clearances (s.remark event) = clearances (s.step event).2 := by
    rw [(step_reacts s event).2, clearances_append, clearances_react, List.nil_append]
  refine ⟨h.single.step event, ?_, ?_, ?_⟩
  · rw [openings_append, h.opened, openings_step, hlength]
    obtain hopening | ⟨device, hopening⟩ := opening_cases s event
    · simp [hopening]
    · simp [hopening, List.range_succ]
  · have hsplit := @List.range'_append_1 0 s.turn (clearances (s.step event).2).length
    rw [Nat.zero_add] at hsplit
    rw [clearances_append, h.left, clearances_step h.single, hturn, List.range_eq_range',
      List.range_eq_range', hsplit]
  · have hgauge := gauge_step s event
    rw [hremark, hleft, h.counted] at hgauge
    rw [hgauge, hlength, hturn]
    push_cast
    omega

/-- **Sessions come and go in order**, in every run. -/
theorem Tallies.run {s : Server σ} {effects : List Effect} (h : s.Tallies effects)
    (events : List (Event σ)) : (s.run events).1.Tallies (effects ++ (s.run events).2) := by
  induction events generalizing s effects with
  | nil => simpa [Server.run] using h
  | cons event rest ih =>
    have hrest := ih (h.step event)
    rwa [List.append_assoc] at hrest

omit [Sink σ] in
/-- The session in place is the live one. -/
theorem Tallies.live_eq {s : Server σ} {effects : List Effect} (h : s.Tallies effects) :
    live effects = s.current.toList := by
  rw [live, h.opened, h.left]
  cases hcurrent : s.current with
  | none =>
    have hturn : s.turn = s.sessions.length := by rw [turn, hcurrent]; rfl
    simp [hturn]
  | some k =>
    have hturn : s.turn = k := by rw [turn, hcurrent]; rfl
    have hlast : ∀ j ∈ List.range k, ¬ (decide (j ∉ List.range k) = true) := by simp
    rw [hturn, h.single.newest k hcurrent, List.range_succ, List.filter_append,
      List.filter_eq_nil_iff.2 hlast]
    simp

omit [Sink σ] in
/-- The sessions are counted as many as are live. -/
theorem Tallies.gauge_eq {s : Server σ} {effects : List Effect} (h : s.Tallies effects) :
    s.gauge = (live effects).length := by
  rw [h.counted, h.live_eq]
  cases hcurrent : s.current with
  | none => simp [turn, hcurrent]
  | some k =>
    have hturn : s.turn = k := by rw [turn, hcurrent]; rfl
    rw [hturn, h.single.newest k hcurrent]
    show ((k + 1 : Nat) : Int) - k = 1
    omega

end Server
end Tunnel
end PollTunnel
