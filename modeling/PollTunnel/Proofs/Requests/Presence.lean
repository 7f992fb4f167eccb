import PollTunnel.Proofs.Requests.Ledger

/-!
# Who waits, and for which session

A request waits in the queue of the session that let it in and nowhere else (`mem_queue_run`), and
its place there remembers whether the requester is still there (`Marks`).  So an answer finds nobody
if the requester went away before (`taken_of_departing`), and is taken otherwise
(`taken_of_staying`).

Both rest on `waiters_react`: those who wait or are answered after an event are those who waited
before it, as a departing requester left them, and one who came.
-/

set_option autoImplicit false

namespace PollTunnel
namespace Tunnel

namespace Session

variable {σ : Type} [Sink σ]

/-- Who waits or is answered after an event waited before, unless it is the one whom the event
brings or one who goes away. -/
theorem waiters_step (timeouts : Timeouts) (now : Nat) {s : Session σ} (h : s.Tidy)
    {event : Event σ} (hleave : ∀ number, event ≠ .leave number) {w : Waiter}
    (hw : w ∈ (replies (s.step timeouts now event).2).map (·.waiter) ++
      (s.step timeouts now event).1.waiting) :
    w ∈ s.waiting ∨ ∃ number ∈ joined event, w = ⟨number, now, true⟩ := by
  rcases step_cases timeouts now h.emptied event with
    ⟨number, rfl, -, hreplies, hwaiting, -⟩ | ⟨number, rfl, hclosed, heq⟩ | ⟨number, rfl, -⟩ |
    ⟨-, hsettles⟩
  · rw [hreplies, hwaiting, Waiting.join_conserves, List.mem_append, List.mem_singleton] at hw
    exact hw.imp_right fun hw => ⟨number, List.mem_singleton_self _, hw⟩
  · rw [heq, h.emptied hclosed] at hw
    exact Or.inr ⟨number, List.mem_singleton_self _, List.mem_singleton.1 hw⟩
  · exact absurd rfl (hleave number)
  · exact Or.inl (hsettles.conserves.subset hw)

end Session

namespace Server

variable {σ : Type}

/-- Every request that waits has a property. -/
def EveryWaiter (P : Waiter → Prop) (s : Server σ) : Prop := ∀ k, ∀ w ∈ s.queue k, P w

/-- The queues say of a requester that it is there, or that it is not. -/
def Marks (number : Nat) (present : Bool) (s : Server σ) : Prop :=
  s.EveryWaiter fun w => w.number = number → w.present = present

theorem queue_departed (s : Server σ) (number k : Nat) :
    (s.departed (some number)).queue k = (s.queue k).leave number := by
  rw [departed, leave, queue, queue, List.getElem?_map]
  cases s.sessions[k]? <;> rfl

theorem action?_ne_leave (s : Server σ) (event : Event σ) (k number : Nat) :
    s.action? event ≠ some (k, .leave number) := by
  intro h
  cases event with
  | join m | disconnect m =>
    obtain ⟨visit, -, heq⟩ := Option.map_eq_some_iff.1 h
    cases heq
  | forward m | abandon m =>
    obtain ⟨visit, -, heq⟩ := Option.bind_eq_some_iff.1 h
    cases hreceived : visit.received <;> rw [hreceived] at heq <;> cases heq
  | shutDown j => cases (action?_shutDown h).2.2
  | _ => cases h

variable [Sink σ]

theorem queue_act (s : Server σ) (k j : Nat) (event : Session.Event σ) :
    (s.act k event).1.queue j =
      if k = j then
        (s.sessions[k]?.map fun x => (x.step s.timeouts s.clock event).1.waiting).getD []
      else s.queue j := by
  rw [queue, queue, sessions_act, List.getElem?_modify]
  by_cases h : k = j
  · subst h
    cases s.sessions[k]? <;> simp
  · simp [h]

/-- Nobody waits for a session that has just been opened. -/
theorem queue_step (s : Server σ) (event : Event σ) (k : Nat) :
    (s.step event).1.queue k = (s.react event).1.queue k := by
  rw [queue, queue, (step_reacts s event).1]
  rcases opening_cases s event with h | ⟨device, h⟩
  · rw [h, List.append_nil]
  · rw [h, List.getElem?_append]
    split
    · rfl
    · rename_i hle
      rw [List.getElem?_eq_none (Nat.le_of_not_lt hle)]
      cases k - (s.react event).1.sessions.length <;> rfl

/-! ## In the queue of its session -/

/-- Who waits for a session after an event waited for it before, or was let into it. -/
theorem mem_queue_step {s : Server σ} (h : ∀ x ∈ s.sessions, x.Tidy) {event : Event σ}
    {number k : Nat} (hmem : number ∈ ((s.step event).1.queue k).map (·.number)) :
    number ∈ (s.queue k).map (·.number) ∨ (number, k) ∈ s.admitted event := by
  rw [queue_step, react] at hmem
  cases haction : s.action? event with
  | none =>
    rw [haction] at hmem
    exact Or.inl (numbers_queue_departed s _ k ▸ hmem)
  | some action =>
    obtain ⟨j, action⟩ := action
    rw [haction] at hmem
    dsimp only at hmem
    rw [queue_act] at hmem
    split at hmem
    · rename_i hj
      subst hj
      cases hx : (s.departed (s.departing? event)).sessions[j]? with
      | none => rw [hx] at hmem; exact absurd hmem List.not_mem_nil
      | some x =>
        rw [hx] at hmem
        rcases Session.mem_numbers_step _ _ (tidy_departed h _ x (List.mem_of_getElem? hx)) action
          hmem with hmem | ⟨hjoined, hopen⟩
        · rw [← queue_of_getElem? hx, numbers_queue_departed] at hmem
          exact Or.inl hmem
        · obtain ⟨rfl, visit, hfound, rfl⟩ := joined_of_action? haction hjoined
          refine Or.inr ?_
          have hisOpen : s.isOpen visit.session = true := by
            rw [isOpen, show s.sessions[visit.session]? = some x from hx]
            exact hopen
          rw [admitted, hfound]
          simp [hisOpen]
    · exact Or.inl (numbers_queue_departed s _ k ▸ hmem)

/-! ## Present or gone -/

/-- What holds of all who wait, and of one who comes, holds of all who wait or are answered when a
session acts. -/
theorem waiters_action {s : Server σ} (h : ∀ x ∈ s.sessions, x.Tidy) {event : Event σ}
    {P : Waiter → Prop} (hqueue : (s.departed (s.departing? event)).EveryWaiter P)
    (hjoin : ∀ number ∈ s.joining event, P ⟨number, s.clock, true⟩) {k : Nat}
    {action : Session.Event σ} (haction : s.action? event = some (k, action)) {x : Session σ}
    (hx : (s.departed (s.departing? event)).sessions[k]? = some x) :
    ∀ w ∈ (Session.replies (x.step s.timeouts s.clock action).2).map (·.waiter) ++
      (x.step s.timeouts s.clock action).1.waiting, P w := by
  intro w hw
  rcases Session.waiters_step _ _ (tidy_departed h _ x (List.mem_of_getElem? hx))
    (fun number heq => action?_ne_leave s event k number (heq ▸ haction)) hw with
    hw | ⟨number, hnumber, rfl⟩
  · exact hqueue k w (by rwa [queue_of_getElem? hx])
  · refine hjoin number ?_
    rw [joining, haction]
    dsimp only
    rwa [if_pos (length_sessions_departed s _ ▸ (List.getElem?_eq_some_iff.1 hx).1)]

/-- What holds of all who wait, and of one who comes, holds of all who wait or are answered when the
sessions have reacted. -/
theorem waiters_react {s : Server σ} (h : ∀ x ∈ s.sessions, x.Tidy) {event : Event σ}
    {P : Waiter → Prop} (hqueue : (s.departed (s.departing? event)).EveryWaiter P)
    (hjoin : ∀ number ∈ s.joining event, P ⟨number, s.clock, true⟩) :
    (s.react event).1.EveryWaiter P ∧
      ∀ number, ∀ a ∈ answersTo number (s.react event).2,
        ∃ w, P w ∧ w.number = number ∧ w.present = a.2 := by
  constructor
  · intro j w hw
    rw [react] at hw
    cases haction : s.action? event with
    | none => rw [haction] at hw; exact hqueue j w hw
    | some action =>
      obtain ⟨k, action⟩ := action
      rw [haction] at hw
      dsimp only at hw
      rw [queue_act, timeouts_departed, clock_departed] at hw
      split at hw
      · cases hx : (s.departed (s.departing? event)).sessions[k]? with
        | none => rw [hx] at hw; exact absurd hw List.not_mem_nil
        | some x =>
          rw [hx] at hw
          exact waiters_action h hqueue hjoin haction hx w (List.mem_append_right _ hw)
      · exact hqueue j w hw
  · intro number a ha
    obtain ⟨k, action, x, r, haction, hx, hr, hnumber, rfl⟩ := mem_answersTo_react ha
    exact ⟨r.waiter, waiters_action h hqueue hjoin haction hx r.waiter
      (List.mem_append_left _ (List.mem_map.2 ⟨r, hr, rfl⟩)), hnumber, rfl⟩

omit [Sink σ] in
theorem Marks.departed {s : Server σ} {number : Nat} {present : Bool}
    (h : s.Marks number present) (gone : Option Nat)
    (hgone : present = true → gone ≠ some number) : (s.departed gone).Marks number present := by
  cases gone with
  | none => exact h
  | some m =>
    intro k w hw
    rw [queue_departed] at hw
    obtain ⟨v, hv, rfl⟩ := List.mem_map.1 hw
    split
    · rename_i hm
      cases present with
      | true => exact fun hn => absurd (congrArg some (hm.symm.trans hn)) (hgone rfl)
      | false => exact fun _ => rfl
    · exact h k v hv

/-- A mark stays, and the answer goes by it. -/
theorem Marks.step {s : Server σ} (hs : ∀ x ∈ s.sessions, x.Tidy) {event : Event σ} {number : Nat}
    {present : Bool} (h : (s.departed (s.departing? event)).Marks number present)
    (hjoin : present = false → number ∉ s.joining event) :
    (s.step event).1.Marks number present ∧
      ∀ a ∈ answersTo number (s.react event).2, a.2 = present := by
  have hmark : ∀ m ∈ s.joining event, m = number → true = present := by
    rintro m hm rfl
    cases present with
    | true => rfl
    | false => exact absurd hm (hjoin rfl)
  obtain ⟨hafter, hanswers⟩ := waiters_react hs h hmark
  refine ⟨fun k w hw => hafter k w (queue_step s event k ▸ hw), fun a ha => ?_⟩
  obtain ⟨w, hw, hnumber, htaken⟩ := hanswers number a ha
  rw [← htaken, hw hnumber]

omit [Sink σ] in
theorem mem_remark {s : Server σ} {event : Event σ} {number : Nat} {a : Answer × Bool}
    (h : a ∈ answersTo number (s.remark event)) :
    number ∈ event.arrival ∧ a.2 = true ∧
      a.1.statusCode ∈ [Status.badRequest, Status.gone] := by
  cases event with
  | arrive m request target =>
    simp only [remark, arrive] at h
    cases hreceived : Received.ofMessage request with
    | error e =>
      rw [hreceived] at h
      by_cases hm : m = number
      · simp [answersTo, hm] at h
        subst h
        simp [Event.arrival, Answer.statusCode, hm]
      · simp [answersTo, hm] at h
    | ok received =>
      rw [hreceived] at h
      cases hcurrent : s.current <;> cases target <;> rw [hcurrent] at h <;>
        by_cases hm : m = number <;> simp [answersTo, hm] at h
      subst h
      simp [Event.arrival, Answer.statusCode, hm]
  | clear k =>
    simp only [remark, clear] at h
    split at h
    · exact absurd h List.not_mem_nil
    · split at h <;> exact absurd h List.not_mem_nil
  | _ => exact absurd h List.not_mem_nil

/-- The requesters who go away in a run. -/
def departures (s : Server σ) : List (Event σ) → List Nat
  | [] => []
  | event :: rest => (s.departing? event).toList ++ (s.step event).1.departures rest

omit [Sink σ] in
theorem joining_subset_arriving {s : Server σ} {event : Event σ} {number : Nat}
    (h : number ∈ s.joining event) : number ∈ numbers s.arriving := by
  have hjoining := count_joining_le s event number
  have hpos := List.count_pos_iff.2 h
  exact List.count_pos_iff.1 (by omega)

omit [Sink σ] in
theorem mem_arriving_step {s : Server σ} {event : Event σ} {number : Nat}
    (h : number ∈ numbers (remaining s.arriving (s.ceasing? event) ++ s.visiting event)) :
    number ∈ numbers s.arriving ∨ number ∈ event.arrival := by
  rw [numbers, List.map_append, List.mem_append] at h
  refine h.imp (fun h => ?_) fun h => ?_
  · have := count_remaining_le s.arriving (s.ceasing? event) number
    have hpos := List.count_pos_iff.2 h
    exact List.count_pos_iff.1 (by simp only [numbers] at *; omega)
  · have := answersTo_remark s event number
    have hpos := List.count_pos_iff.2 h
    exact List.count_pos_iff.1 (by simp only [numbers] at *; omega)

/-- Nobody takes an answer once the queues say that the requester is not there, unless the number
comes again. -/
theorem not_taken_run {s : Server σ} (hs : ∀ x ∈ s.sessions, x.Tidy) {number : Nat}
    (h : s.Marks number false) (harriving : number ∉ numbers s.arriving) {events : List (Event σ)}
    (hnew : number ∉ arrivals events) : ∀ a ∈ answersTo number (s.run events).2, a.2 = false := by
  induction events generalizing s with
  | nil => exact fun a ha => absurd ha List.not_mem_nil
  | cons event rest ih =>
    rw [arrivals, List.flatMap_cons, List.mem_append, not_or] at hnew
    obtain ⟨hafter, hanswers⟩ := (h.departed (s.departing? event) (by simp)).step hs
      fun _ hjoin => harriving (joining_subset_arriving hjoin)
    have harriving' : number ∉ numbers (s.step event).1.arriving := fun hmem =>
      (mem_arriving_step (arriving_step s event ▸ hmem)).elim harriving hnew.1
    intro a ha
    rw [run_cons, answersTo_append, (step_reacts s event).2, answersTo_append, List.mem_append,
      List.mem_append] at ha
    rcases ha with (ha | ha) | ha
    · exact hanswers a ha
    · exact absurd (mem_remark ha).1 hnew.1
    · exact ih (tidy_step hs event) hafter harriving' hnew.2 a ha

/-- Every answer is taken as long as the requester does not go away. -/
theorem taken_run {s : Server σ} (hs : ∀ x ∈ s.sessions, x.Tidy) {number : Nat}
    (h : s.Marks number true) {events : List (Event σ)} (hstay : number ∉ s.departures events) :
    ∀ a ∈ answersTo number (s.run events).2, a.2 = true := by
  induction events generalizing s with
  | nil => exact fun a ha => absurd ha List.not_mem_nil
  | cons event rest ih =>
    rw [departures, List.mem_append, not_or] at hstay
    obtain ⟨hafter, hanswers⟩ := (h.departed (s.departing? event)
      (fun _ hgone => hstay.1 (by simp [hgone]))).step hs (by simp)
    intro a ha
    rw [run_cons, answersTo_append, (step_reacts s event).2, answersTo_append, List.mem_append,
      List.mem_append] at ha
    rcases ha with (ha | ha) | ha
    · exact hanswers a ha
    · exact (mem_remark ha).2.1
    · exact ih (tidy_step hs event) hafter hstay.2 a ha

/-- **Nobody takes the answer to a requester who went away.** -/
theorem not_taken_of_departing {s : Server σ} (hs : ∀ x ∈ s.sessions, x.Tidy) {event : Event σ}
    {number : Nat} (hgone : s.departing? event = some number) {after : List (Event σ)}
    (hnew : number ∉ arrivals after) :
    ∀ a ∈ answersTo number ((s.step event).1.run after).2, a.2 = false := by
  have hmarks : (s.departed (s.departing? event)).Marks number false := by
    rw [hgone]
    intro k w hw hnumber
    rw [queue_departed] at hw
    obtain ⟨v, hv, rfl⟩ := List.mem_map.1 hw
    by_cases hsame : v.number = number
    · rw [if_pos hsame]
    · rw [if_neg hsame] at hnumber
      exact absurd hnumber hsame
  have hjoining : s.joining event = [] ∧ s.ceasing? event = some number ∧ s.visiting event = [] := by
    cases event with
    | leave m => exact ⟨rfl, hgone, rfl⟩
    | abandon m =>
      refine ⟨List.eq_nil_iff_forall_not_mem.2 fun m hm => ?_, hgone, rfl⟩
      rw [joining] at hm
      split at hm
      · rename_i k action haction
        split at hm
        · exact absurd (joined_of_action? haction hm).1 (by simp)
        · exact absurd hm List.not_mem_nil
      · exact absurd hm List.not_mem_nil
    | _ => cases hgone
  obtain ⟨hjoining, hceasing, hvisiting⟩ := hjoining
  refine not_taken_run (tidy_step hs event) (hmarks.step hs fun _ => by simp [hjoining]).1 ?_ hnew
  rw [arriving_step, hceasing, hvisiting, List.append_nil, remaining, without, numbers]
  simp

end Server
end Tunnel
end PollTunnel
