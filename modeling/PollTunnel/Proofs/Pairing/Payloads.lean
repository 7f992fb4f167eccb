import PollTunnel.Proofs.Pairing.Services

/-!
# Which way the payloads go

The payloads that a session passes on to its target are those of the requests that it serves, and so
are the numbers that its forwarder drops as duplicates (`exists_service_of_drops`).  The chunks that
requests are answered were read from the target of the session that answers (`exists_reading`).

So sessions have no part in each other's streams, although all of them start to count from one.
-/

set_option autoImplicit false

namespace PollTunnel
namespace Tunnel
namespace Server

variable {σ : Type} [Sink σ]

/-! ## Towards the target -/

omit [Sink σ] in
/-- A payload is passed on for a request. -/
theorem exists_request_of_passedOn {s : Server σ} {event : Event σ} {k : Nat}
    {action : Session.Event σ} (h : s.action? event = some (k, action)) {p : Payload}
    (hpassed : Session.passedOn? action = some p) : ∃ number, event.request? = some number := by
  cases event with
  | join number | disconnect number | forward number | abandon number => exact ⟨number, rfl⟩
  | arrive | write | leave | clear | pass => cases h
  | shutDown j =>
    obtain ⟨-, -, rfl⟩ := action?_shutDown h
    cases hpassed
  | _ => cases h; cases hpassed

/-- **A stream towards a target moves only for a request that its session serves.** -/
theorem forwarder_services {s : Server σ} {k : Nat} {x : Session σ} (h : s.sessions[k]? = some x)
    (event : Event σ) :
    ∃ y, (s.step event).1.sessions[k]? = some y ∧
      ((∃ a ∈ s.services event, a.session = k ∧
          ∃ p, a.payload? = some p ∧ y.forwarder = (x.forwarder.forward p).2) ∨
        x.forwarder.SameStream y.forwarder) := by
  obtain ⟨y, hy, hforwarder⟩ := forwarder_step_cases h event
  refine ⟨y, hy, hforwarder.imp_left fun ⟨action, p, haction, hpassed, hforward⟩ => ?_⟩
  obtain ⟨number, hnumber⟩ := exists_request_of_passedOn haction hpassed
  have ha := mem_services.2 (Or.inr ⟨k, action, haction, Or.inl ⟨number, hnumber, rfl⟩⟩)
  exact ⟨_, ha, rfl, p, hpassed, hforward⟩

/-- **A number is dropped only after the session passed on a payload of that number** for a request
that it served. -/
theorem exists_service_of_drops {s : Server σ} {events : List (Event σ)} {k : Nat} {x : Session σ}
    (hx : (s.run events).1.sessions[k]? = some x) {n : Nat} (hpos : 0 < n)
    (h : x.forwarder.Drops n) :
    (∃ y, s.sessions[k]? = some y ∧ y.forwarder.Drops n) ∨
      ∃ a ∈ s.log events, a.session = k ∧ ∃ p, a.payload? = some p ∧ p.sequence = n := by
  induction events generalizing s with
  | nil => exact Or.inl ⟨x, hx, h⟩
  | cons event rest ih =>
    rcases ih hx with ⟨y, hy, hdrops⟩ | ⟨a, ha, hrest⟩
    · cases hbefore : s.sessions[k]? with
      | none =>
        -- a fresh forwarder drops nothing
        obtain ⟨device, rfl⟩ := eq_start_of_new hbefore hy
        rcases hdrops with hle | hholds
        · exact absurd hle (Nat.not_le_of_lt hpos)
        · cases hholds
      | some z =>
        obtain ⟨y', hy', hforwarder⟩ := forwarder_services hbefore event
        obtain rfl := Option.some.inj (hy.symm.trans hy')
        rcases hforwarder with ⟨a, ha, hk, p, hp, hforward⟩ | hsame
        · rw [hforward] at hdrops
          rcases Forwarder.drops_forward hdrops with hdrops | hpn
          · exact Or.inl ⟨z, rfl, hdrops⟩
          · exact Or.inr ⟨a, List.mem_append_left _ ha, hk, p, hp, hpn⟩
        · refine Or.inl ⟨z, rfl, ?_⟩
          rwa [Forwarder.Drops, Forwarder.holds, hsame.last, hsame.queue] at hdrops
    · exact Or.inr ⟨a, List.mem_append_right _ ha, hrest⟩

/-! ## From the target -/

omit [Sink σ] in
/-- The chunk that a session reads from its target at an event. -/
def reading (s : Server σ) (k : Nat) : Event σ → List Payload
  | .read j outcome => if j = k then s.drawn (.read j outcome) else []
  | _ => []

/-- The chunks that a session reads from its target in a run. -/
def readings (s : Server σ) (k : Nat) : List (Event σ) → List Payload
  | [] => []
  | event :: rest => s.reading k event ++ (s.step event).1.readings k rest

omit [Sink σ] in
/-- A session numbers the chunks that it reads. -/
theorem drawn_eq_reading {s : Server σ} {event : Event σ} {k : Nat} {action : Session.Event σ}
    (h : s.action? event = some (k, action)) {x : Session σ} (hx : s.sessions[k]? = some x) :
    x.drawn action = s.reading k event := by
  rw [drawn_of_action? h hx]
  cases event with
  | read j outcome =>
    cases h
    exact (if_pos rfl).symm
  | _ => rfl

/-- The chunk that a session holds after an event, or hands out, it held before or reads now. -/
theorem held_or_reading {s : Server σ} {event : Event σ} {k : Nat} {action : Session.Event σ}
    (haction : s.action? event = some (k, action)) {x : Session σ} (hx : s.sessions[k]? = some x)
    (q : Waiting) {p : Payload}
    (hp : p ∈ Reply.handed (Session.replies
          (Session.step s.timeouts s.clock { x with waiting := q } action).2) ++
        (Session.step s.timeouts s.clock { x with waiting := q } action).1.held) :
    p ∈ x.held ∨ p ∈ s.reading k event := by
  have hflow := Session.flow_step s.timeouts s.clock { x with waiting := q } action p
  have hpos := List.count_pos_iff.2 hp
  rw [List.count_append] at hpos
  have hdrawn : ({ x with waiting := q } : Session σ).drawn action = s.reading k event := by
    rw [← drawn_eq_reading haction hx]
    cases action <;> rfl
  rw [hdrawn] at hflow
  rcases Nat.eq_zero_or_pos ((s.reading k event).count p) with hnone | hsome
  · exact Or.inl (List.count_pos_iff.1 (show 0 < x.held.count p from
      Nat.lt_of_lt_of_le hpos (by rw [hnone] at hflow; exact hflow)))
  · exact Or.inr (List.count_pos_iff.1 hsome)

/-- What is held was read. -/
def HoldsOnly (s : Server σ) (chunks : Nat → List Payload) : Prop :=
  ∀ (k : Nat) (x : Session σ), s.sessions[k]? = some x → ∀ p ∈ x.held, p ∈ chunks k

theorem HoldsOnly.step {s : Server σ} {chunks : Nat → List Payload} (h : s.HoldsOnly chunks)
    (event : Event σ) :
    (s.step event).1.HoldsOnly fun k => chunks k ++ s.reading k event := by
  intro k y hy p hp
  rw [List.mem_append]
  cases hx : s.sessions[k]? with
  | none =>
    obtain ⟨device, rfl⟩ := eq_start_of_new hx hy
    exact absurd hp List.not_mem_nil
  | some x =>
    obtain ⟨q, -, ⟨-, hstep⟩ | ⟨action, haction, hstep⟩⟩ := session_step_cases hx event
    · obtain rfl := Option.some.inj (hstep.symm.trans hy)
      exact Or.inl (h k x hx p hp)
    · obtain rfl := Option.some.inj (hstep.symm.trans hy)
      exact (held_or_reading haction hx q (List.mem_append_right _ hp)).imp_left (h k x hx p)

/-- The payload that a requester takes was held or is read by the session that answers. -/
theorem exists_service_of_answer {s : Server σ} {event : Event σ} {number : Nat} {p : Payload}
    (h : .answer number (.payload p) true ∈ (s.step event).2) :
    ∃ k x, s.sessions[k]? = some x ∧
      ⟨number, k, .answers (.payload p) true⟩ ∈ s.services event ∧
      (p ∈ x.held ∨ p ∈ s.reading k event) := by
  have hreact : .answer number (.payload p) true ∈ (s.react event).2 := by
    rw [(step_reacts s event).2, List.mem_append] at h
    refine h.resolve_right fun hremark => ?_
    have hnone := handed_remark s event
    have hmem : p ∈ handed (s.remark event) := List.mem_filterMap.2 ⟨_, hremark, rfl⟩
    rw [hnone] at hmem
    cases hmem
  have hanswer : (Answer.payload p, true) ∈ answersTo number (s.react event).2 :=
    List.mem_filterMap.2 ⟨_, hreact, by simp⟩
  obtain ⟨k, action, y, r, haction, hy, hr, -, heq⟩ := mem_answersTo_react hanswer
  obtain ⟨hpayload, hpresent⟩ := Prod.mk.inj heq
  have hx : ∃ x, s.sessions[k]? = some x := by
    have hlt := (List.getElem?_eq_some_iff.1 hy).1
    rw [length_sessions_departed] at hlt
    exact ⟨_, List.getElem?_eq_getElem hlt⟩
  obtain ⟨x, hx⟩ := hx
  obtain ⟨q, hq⟩ := exists_waiting_departed hx (s.departing? event)
  obtain rfl := Option.some.inj (hy.symm.trans hq)
  refine ⟨k, x, hx, mem_services.2 (Or.inr ⟨k, action, haction, Or.inr ⟨_, _, _, hreact, rfl⟩⟩), ?_⟩
  refine held_or_reading haction hx q (List.mem_append_left _ ?_)
  exact List.mem_filterMap.2 ⟨r, hr, by rw [← hpayload, ← hpresent]⟩

/-- **What a requester takes was read from the target of the session that serves it.** -/
theorem exists_reading {s : Server σ} {chunks : Nat → List Payload} (h : s.HoldsOnly chunks)
    {events : List (Event σ)} {number : Nat} {p : Payload}
    (ha : .answer number (.payload p) true ∈ (s.run events).2) :
    ∃ k, ⟨number, k, .answers (.payload p) true⟩ ∈ s.log events ∧
      p ∈ chunks k ++ s.readings k events := by
  induction events generalizing s chunks with
  | nil => exact absurd ha List.not_mem_nil
  | cons event rest ih =>
    rw [run_cons] at ha
    rcases List.mem_append.1 ha with ha | ha
    · obtain ⟨k, x, hx, hservice, hp⟩ := exists_service_of_answer ha
      refine ⟨k, List.mem_append_left _ hservice, ?_⟩
      rw [readings, ← List.append_assoc]
      exact List.mem_append_left _ (List.mem_append.2 (hp.imp_left (h k x hx p)))
    · obtain ⟨k, hservice, hp⟩ := ih (h.step event) ha
      refine ⟨k, List.mem_append_right _ hservice, ?_⟩
      rwa [readings, ← List.append_assoc]

end Server
end Tunnel
end PollTunnel
