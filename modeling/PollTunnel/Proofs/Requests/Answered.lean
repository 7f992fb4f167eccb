import PollTunnel.Proofs.Lists
import PollTunnel.Proofs.Requests.Presence

/-!
# Every request is answered exactly once

The server lets requests into the queues of its sessions, and many things take them out again: a
newer request, data from the target, the time, the end of the session.  These happen in any order,
and requesters go away in between.  `Server.AnswersOnce` says of a run what must come out of it all,
and `run_answersOnce` is that it does, for every run in which no number arrives twice.

The two bounds of the ledger are what the main part rests on.  A number arrives once, so it cannot
both wait and be answered, nor be answered twice; and one that was let in cannot be lost.
-/

set_option autoImplicit false

namespace PollTunnel
namespace Tunnel
namespace Server

variable {σ : Type} [Sink σ]

/-- **What it means for a run that requests are answered once and none is left behind.**  The run
leads from `start` through the events. -/
structure AnswersOnce (start : Server σ) (events : List (Event σ)) : Prop where
  /-- Never more than two wait for a session. -/
  bounded : ∀ k, ((start.run events).1.queue k).length ≤ 2
  /-- A request that was let in waits in the queue of its session, once and nowhere else, and is
  unanswered; or it waits nowhere and was answered once. -/
  once : ∀ number k, (number, k) ∈ start.admissions events →
    ((∀ j, (((start.run events).1.queue j).map (·.number)).count number = if j = k then 1 else 0) ∧
      answersTo number (start.run events).2 = []) ∨
    ((∀ j, number ∉ ((start.run events).1.queue j).map (·.number)) ∧
      ∃ answer taken, answersTo number (start.run events).2 = [(answer, taken)] ∧
        answer.statusCode ∈ [Status.ok, Status.noContent, Status.gone, Status.tooManyRequests])
  /-- Nobody takes the answer to a requester who went away before. -/
  discarded : ∀ before event after number, events = before ++ event :: after →
    number ∈ arrivals before → (start.run before).1.departing? event = some number →
    ∀ a ∈ answersTo number ((start.run (before ++ [event])).1.run after).2, a.2 = false
  /-- The answer to a requester who stays is taken. -/
  taken : ∀ number, number ∉ start.departures events →
    ∀ a ∈ answersTo number (start.run events).2, a.2 = true
  /-- Only a request that comes while two wait has one answered 429, and that is the older one. -/
  displaced : ∀ event number, ∀ a ∈ answersTo number ((start.run events).1.step event).2,
    a.1.statusCode = Status.tooManyRequests →
    ∃ newcomer k first second, event = .join newcomer ∧
      (newcomer, k) ∈ (start.run events).1.admitted event ∧
      (start.run events).1.queue k = [first, second] ∧ first.number = number ∧
      ((start.run events).1.step event).1.queue k =
        [second, ⟨newcomer, (start.run events).1.clock, true⟩]
  /-- A session that is over stays over, and nobody waits for it, whatever happens from then on. -/
  lasting : ∀ (k : Nat) (x : Session σ), (start.run events).1.sessions[k]? = some x → x.isOpen = false →
    ∀ later, ∃ y : Session σ, ((start.run events).1.run later).1.sessions[k]? = some y ∧ y.isOpen = false ∧
      y.waiting = []
  /-- A request that reaches a session which is over is told so at once, and nothing else happens.
  -/
  late : ∀ visit ∈ (start.run events).1.arriving,
    (start.run events).1.isOpen visit.session = false →
    (start.run events).1.step (.join visit.number) =
      ({ (start.run events).1 with
          arriving := without (start.run events).1.arriving visit.number },
        [.answer visit.number (.status Status.gone) true])

/-! ## The ledger of a run -/

theorem balance_run {s : Server σ} (h : ∀ x ∈ s.sessions, x.Tidy) (events : List (Event σ))
    (number : Nat) :
    (answersTo number (s.run events).2).length + (s.run events).1.waiting.count number +
        (numbers (s.run events).1.arriving).count number ≤
      s.waiting.count number + (numbers s.arriving).count number +
        (arrivals events).count number := by
  induction events generalizing s with
  | nil => simp [run, arrivals]
  | cons event rest ih =>
    have hstep := balance_step h event number
    have hrest := ih (tidy_step h event)
    rw [run_cons, answersTo_append, List.length_append]
    simp only [arrivals, List.flatMap_cons, List.count_append] at hrest ⊢
    omega

theorem admitted_run {s : Server σ} (h : ∀ x ∈ s.sessions, x.Tidy) (events : List (Event σ))
    (number : Nat) :
    s.waiting.count number + ((s.admissions events).map (·.1)).count number ≤
      (s.run events).1.waiting.count number +
        (answersTo number (s.run events).2).countP (isSettled ·.1.statusCode) := by
  induction events generalizing s with
  | nil => simp [run, admissions]
  | cons event rest ih =>
    have hstep := admitted_step h event number
    have hrest := ih (tidy_step h event)
    rw [run_cons, answersTo_append, List.countP_append, admissions, List.map_append,
      List.count_append]
    dsimp only
    omega

/-- A number that arrives once is let in once at most. -/
theorem count_admissions_le (s : Server σ) (events : List (Event σ)) (number : Nat) :
    ((s.admissions events).map (·.1)).count number ≤
      (numbers s.arriving).count number + (arrivals events).count number := by
  induction events generalizing s with
  | nil => simp [admissions]
  | cons event rest ih =>
    have hrest := ih (s.step event).1
    have hjoining := count_joining_le s event number
    have hadmitted := admitted_joining s event number
    have hvisiting := answersTo_remark s event number
    rw [arriving_step, numbers, List.map_append, List.count_append] at hrest
    simp only [numbers, arrivals, admissions, List.flatMap_cons, List.map_append,
      List.count_append] at *
    omega

theorem mem_queue_run {s : Server σ} (h : ∀ x ∈ s.sessions, x.Tidy) {events : List (Event σ)}
    {number k : Nat} (hmem : number ∈ ((s.run events).1.queue k).map (·.number)) :
    number ∈ (s.queue k).map (·.number) ∨ (number, k) ∈ s.admissions events := by
  induction events generalizing s with
  | nil => exact Or.inl hmem
  | cons event rest ih =>
    rw [admissions, List.mem_append]
    rcases ih (tidy_step h event) hmem with hmem | hmem
    · exact (mem_queue_step h hmem).imp_right Or.inl
    · exact Or.inr (Or.inr hmem)

/-! ## The parts -/

omit [Sink σ] in
/-- What waits once in all, waits in one queue only. -/
theorem count_queue {s : Server σ} {number k : Nat} (hcount : s.waiting.count number = 1)
    (hqueue : ∀ j, number ∈ (s.queue j).map (·.number) → j = k) (j : Nat) :
    ((s.queue j).map (·.number)).count number = if j = k then 1 else 0 := by
  split
  · rename_i hj
    subst hj
    obtain ⟨i, hi⟩ := mem_waiting.1 (List.count_pos_iff.1 (hcount ▸ Nat.one_pos))
    obtain rfl := hqueue i hi
    obtain ⟨w, hw, -⟩ := List.mem_map.1 hi
    obtain ⟨x, hx, -⟩ := mem_queue.1 hw
    have hle := count_le_count_flatMap (f := fun x : Session σ => x.waiting.map (·.number))
      (List.mem_of_getElem? hx) number
    rw [← waiting, ← queue_of_getElem? hx, hcount] at hle
    exact Nat.le_antisymm hle (List.count_pos_iff.2 hi)
  · rename_i hj
    exact List.count_eq_zero.2 fun hmem => hj (hqueue j hmem)

/-- A request that was let in waits once, or was answered once. -/
theorem once_of_admitted {s : Server σ} (h : ∀ x ∈ s.sessions, x.Tidy) (hwaiting : s.waiting = [])
    {events : List (Event σ)} {number k : Nat}
    (honce : (numbers s.arriving).count number + (arrivals events).count number ≤ 1)
    (hadmitted : (number, k) ∈ s.admissions events) :
    ((∀ j, (((s.run events).1.queue j).map (·.number)).count number = if j = k then 1 else 0) ∧
      answersTo number (s.run events).2 = []) ∨
    ((∀ j, number ∉ ((s.run events).1.queue j).map (·.number)) ∧
      ∃ answer taken, answersTo number (s.run events).2 = [(answer, taken)] ∧
        isSettled answer.statusCode = true) := by
  have habove := balance_run h events number
  have hbelow := admitted_run h events number
  have hsettled := List.countP_le_length (p := fun a => isSettled a.1.statusCode)
    (l := answersTo number (s.run events).2)
  have hmem : 0 < ((s.admissions events).map (·.1)).count number :=
    List.count_pos_iff.2 (List.mem_map.2 ⟨_, hadmitted, rfl⟩)
  have hnone : s.waiting.count number = 0 := by rw [hwaiting]; rfl
  by_cases hwaits : (s.run events).1.waiting.count number = 0
  · refine Or.inr ⟨fun j hj => ?_, ?_⟩
    · exact List.count_eq_zero.1 hwaits (mem_waiting.2 ⟨j, hj⟩)
    · obtain ⟨a, ha⟩ := List.length_eq_one_iff.1
        (show (answersTo number (s.run events).2).length = 1 by omega)
      refine ⟨a.1, a.2, ha, ?_⟩
      have hall := List.countP_eq_length.1
        (show (answersTo number (s.run events).2).countP (isSettled ·.1.statusCode) =
          (answersTo number (s.run events).2).length by omega)
      exact hall a (ha ▸ List.mem_singleton_self a)
  · refine Or.inl ⟨count_queue (by omega) fun j hj => ?_, List.eq_nil_of_length_eq_zero (by omega)⟩
    -- The number was let in once only, so the queue in which it waits is that of its session.
    rcases mem_queue_run h hj with hbefore | hj
    · exact absurd (mem_waiting.2 ⟨j, hbefore⟩) (hwaiting ▸ List.not_mem_nil)
    · have hle := Nat.le_trans (count_admissions_le s events number) honce
      exact (Prod.mk.inj (eq_of_count_map_le_one hle hj hadmitted rfl rfl)).2

/-- A request that is answered 429 made room for another one. -/
theorem displaced_of_mem {s : Server σ} (h : ∀ x ∈ s.sessions, x.Tidy) {event : Event σ}
    {number : Nat} {a : Answer × Bool} (ha : a ∈ answersTo number (s.step event).2)
    (hstatus : a.1.statusCode = Status.tooManyRequests) :
    ∃ newcomer k first second, event = .join newcomer ∧ (newcomer, k) ∈ s.admitted event ∧
      s.queue k = [first, second] ∧ first.number = number ∧
      (s.step event).1.queue k = [second, ⟨newcomer, s.clock, true⟩] := by
  rw [(step_reacts s event).2, answersTo_append, List.mem_append] at ha
  rcases ha with ha | ha
  · obtain ⟨k, action, x, r, haction, hx, hr, rfl, rfl⟩ := mem_answersTo_react ha
    obtain ⟨hover, hbounded⟩ := tidy_departed h _ x (List.mem_of_getElem? hx)
    obtain ⟨newcomer, second, rfl, hopen, hbefore, -, hafter⟩ :=
      Session.displaced_step _ _ hover action hbounded hr hstatus
    obtain ⟨rfl, visit, hfound, rfl⟩ := joined_of_action? haction (List.mem_singleton_self _)
    have hsession : s.sessions[visit.session]? = some x := hx
    refine ⟨newcomer, visit.session, r.waiter, second, rfl, ?_, ?_, rfl, ?_⟩
    · have hisOpen : s.isOpen visit.session = true := by
        rw [isOpen, hsession]
        exact hopen
      rw [admitted, hfound]
      simp [hisOpen]
    · rw [queue_of_getElem? hsession, hbefore]
    · rw [queue_step, react, haction]
      dsimp only
      rw [queue_act, if_pos rfl, hx]
      exact hafter
  · have hcode := (mem_remark ha).2.2
    rw [hstatus] at hcode
    exact absurd hcode (by decide)

/-- A session that is over stays over, and nobody waits for it. -/
theorem over_run {s : Server σ} (h : ∀ x ∈ s.sessions, x.Tidy) {k : Nat} {x : Session σ}
    (hx : s.sessions[k]? = some x) (hover : x.isOpen = false) (later : List (Event σ)) :
    ∃ y, (s.run later).1.sessions[k]? = some y ∧ y.isOpen = false ∧ y.waiting = [] := by
  obtain ⟨es, hy⟩ := exists_run_of_getElem? hx later
  have hkept : (x.run s.timeouts es).1.Tidy ∧ (x.run s.timeouts es).1.isOpen = false :=
    Session.run_induction (P := fun y => y.Tidy ∧ y.isOpen = false)
      (fun _ _ event hy => ⟨hy.1.step _ _ event, Session.not_isOpen_step _ _ hy.2 event⟩)
      ⟨h x (List.mem_of_getElem? hx), hover⟩ es
  exact ⟨_, hy, hkept.2, hkept.1.emptied hkept.2⟩

/-- A request that reaches a session which is over is told so at once. -/
theorem step_join_of_over {s : Server σ} (hplaced : s.Placed) (hd : (numbers s.arriving).Nodup)
    {visit : Visit} (hvisit : visit ∈ s.arriving) (hover : s.isOpen visit.session = false) :
    s.step (.join visit.number) =
      ({ s with arriving := without s.arriving visit.number },
        [.answer visit.number (.status Status.gone) true]) := by
  have hlt := hplaced.arriving visit hvisit
  have hx : s.sessions[visit.session]? = some s.sessions[visit.session] :=
    List.getElem?_eq_getElem hlt
  have hclosed : s.sessions[visit.session].isOpen = false := by
    rw [isOpen, hx] at hover
    exact hover
  have hfound : s.arriving.find? (·.number = visit.number) = some visit :=
    find?_of_nodup (f := Visit.number) hd hvisit
  simp only [step, join, hfound, hover]
  rw [act_visits s visit.session _ _ s.forwarding, act_of_some s _ _ hx,
    Session.step_join_of_not_isOpen _ _ _ _ hclosed]
  simp [count, effectOf?]

/-! ## The whole -/

/-- **Every request is answered exactly once and none is stranded**, in every run of the server in
which no number arrives twice: requests of any kind, requesters who go away, what the target sends,
its end, failures and the time may come in any order. -/
theorem run_answersOnce (timeouts : Timeouts) (events : List (Event σ))
    (hnew : (arrivals events).Nodup) : AnswersOnce (ofTimeouts timeouts) events := by
  have hstart := tidy_ofTimeouts (σ := σ) timeouts
  have htidy := tidy_run hstart events
  have honce : ∀ number, (arrivals events).count number ≤ 1 := List.nodup_iff_count.1 hnew
  refine ⟨fun k => ?_, fun number k => ?_, ?_, fun number hstay => ?_, fun event number a => ?_,
    fun k x hx hover later => over_run htidy hx hover later, fun visit hvisit hover => ?_⟩
  · rw [queue]
    cases hx : ((ofTimeouts timeouts).run events).1.sessions[k]? with
    | none => exact Nat.zero_le _
    | some x => exact (htidy x (List.mem_of_getElem? hx)).bounded
  · intro hadmitted
    have hle := Nat.le_trans (Nat.le_of_eq (Nat.zero_add _)) (honce number)
    rcases once_of_admitted hstart rfl hle hadmitted with hwaits | ⟨hnone, a, taken, ha, hcode⟩
    · exact Or.inl hwaits
    · exact Or.inr ⟨hnone, a, taken, ha, of_decide_eq_true hcode⟩
  · rintro before event after number rfl hbefore hgone
    rw [run_append]
    refine not_taken_of_departing (tidy_run hstart before) hgone fun hafter => ?_
    have hcount := honce number
    rw [arrivals, List.flatMap_append, List.flatMap_cons, List.count_append, List.count_append]
      at hcount
    have h₁ := List.count_pos_iff.2 hbefore
    have h₂ := List.count_pos_iff.2 hafter
    simp only [arrivals] at h₁ h₂
    omega
  · refine taken_run hstart (fun k w hw => ?_) hstay
    exact absurd hw List.not_mem_nil
  · exact fun ha => displaced_of_mem htidy ha
  · refine step_join_of_over ((placed_ofTimeouts timeouts).run events)
      (List.nodup_iff_count.2 fun number => ?_) hvisit hover
    have hcount := balance_run hstart events number
    have := honce number
    have hzero : (ofTimeouts timeouts : Server σ).waiting.count number +
      (numbers (ofTimeouts timeouts : Server σ).arriving).count number = 0 := rfl
    omega

/-- Three requests of which the first makes room, the second gets what the target sends, and the
third goes on to wait. -/
theorem run_answersOnce_three :
    let events : List (Event SoundSink) :=
      [.arrive 1 {} (some ⟨⟩), .arrive 2 {} none, .arrive 3 {} none, .join 1, .join 2, .join 3,
        .read 0 (.ok (.data [97]))]
    (arrivals events).Nodup ∧ AnswersOnce (ofTimeouts {}) events ∧
      answersTo 1 ((ofTimeouts {}).run events).2 = [(.status Status.tooManyRequests, true)] ∧
      (((ofTimeouts {}).run events).1.queue 0).map (·.number) = [3] := by
  intro events
  exact ⟨by decide, run_answersOnce {} events (by decide), by decide, by decide⟩

end Server
end Tunnel
end PollTunnel
