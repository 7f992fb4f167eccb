import PollTunnel.Proofs.Requests.Actions

/-!
# The ledger of requests

A request arrives, reaches the queue of a session, and is answered.  This file keeps count of each
number on that way: how often it arrived (`Server.arrivals`), is still to reach a queue
(`Server.arriving`), waits (`Server.waiting`), and was answered (`Server.answersTo`).

`balance_step` is the bound from above: what is answered, waits or arrives was there before or comes
now.  `admitted_step` is the bound from below: what a session lets in waits or is answered, with one
of the statuses of `isSettled`.  Over a run in which every number arrives once the two meet.
-/

set_option autoImplicit false

namespace PollTunnel
namespace Tunnel

namespace Session

variable {σ : Type}

/-- What holds of the queue of every session, at all times. -/
structure Tidy (s : Session σ) : Prop where
  /-- Nobody waits for a session that is over. -/
  emptied : s.isOpen = false → s.waiting = []
  /-- No more than two wait. -/
  bounded : s.waiting.length ≤ Waiting.capacity

theorem tidy_start (timeouts : Timeouts) (now : Nat) (device : σ) :
    (start timeouts now device).Tidy := ⟨fun _ => rfl, Nat.zero_le _⟩

variable [Sink σ]

theorem Tidy.step {s : Session σ} (h : s.Tidy) (timeouts : Timeouts) (now : Nat) (event : Event σ) :
    (s.step timeouts now event).1.Tidy :=
  ⟨over_step timeouts now h.emptied event, length_waiting_step timeouts now h.emptied event h.bounded⟩

/-- Who waits after an event waited before, or is let in by it. -/
theorem mem_numbers_step (timeouts : Timeouts) (now : Nat) {s : Session σ} (h : s.Tidy)
    (event : Event σ) {number : Nat}
    (hmem : number ∈ (s.step timeouts now event).1.waiting.map (·.number)) :
    number ∈ s.waiting.map (·.number) ∨ number ∈ joined event ∧ s.isOpen = true := by
  have hbefore := (numbers_step timeouts now h.emptied event).subset (List.mem_append_right _ hmem)
  rw [List.mem_append] at hbefore
  refine hbefore.imp_right fun hjoined => ⟨hjoined, ?_⟩
  cases hopen : s.isOpen with
  | true => rfl
  | false =>
    rw [over_step timeouts now h.emptied event (not_isOpen_step timeouts now hopen event)] at hmem
    exact absurd hmem List.not_mem_nil

end Session

namespace Server

variable {σ : Type}

/-! ## Where a request can be -/

/-- The requests that wait for the data of a session. -/
def queue (s : Server σ) (k : Nat) : Waiting := (s.sessions[k]?.map (·.waiting)).getD []

/-- The numbers of all requests that wait. -/
def waiting (s : Server σ) : List Nat := s.sessions.flatMap fun x => x.waiting.map (·.number)

/-- The numbers of the requests that are on their way. -/
def numbers (visits : List Visit) : List Nat := visits.map (·.number)

/-- What a request was answered, and whether it was still there to take it. -/
def answersTo (number : Nat) (effects : List Effect) : List (Answer × Bool) :=
  effects.filterMap fun
    | .answer n answer taken => if n = number then some (answer, taken) else none
    | _ => none

/-- The number of the request that an event brings. -/
def Event.arrival : Event σ → List Nat
  | .arrive number _ _ => [number]
  | _ => []

/-- The numbers of all requests that arrive. -/
def arrivals (events : List (Event σ)) : List Nat := events.flatMap Event.arrival

/-- The request that an event brings into a queue, with its session. -/
def admitted (s : Server σ) : Event σ → List (Nat × Nat)
  | .join number =>
    match s.arriving.find? (·.number = number) with
    | some visit => if s.isOpen visit.session then [(number, visit.session)] else []
    | none => []
  | _ => []

/-- All requests that are let into a queue, with their sessions. -/
def admissions [Sink σ] (s : Server σ) : List (Event σ) → List (Nat × Nat)
  | [] => []
  | event :: rest => s.admitted event ++ (s.step event).1.admissions rest

/-- The statuses that a request which was let in may be answered. -/
def isSettled (status : Status) : Bool :=
  status ∈ [Status.ok, Status.noContent, Status.gone, Status.tooManyRequests]

@[simp] theorem answersTo_nil (number : Nat) : answersTo number [] = [] := rfl

@[simp] theorem answersTo_append (number : Nat) (a b : List Effect) :
    answersTo number (a ++ b) = answersTo number a ++ answersTo number b :=
  List.filterMap_append

/-- What a session replies is what its requests are answered. -/
theorem answersTo_effectOf (number k : Nat) (effects : List Session.Effect) :
    answersTo number (effects.filterMap (effectOf? k)) =
      ((Session.replies effects).filter (·.waiter.number = number)).map
        fun r => (r.answer, r.waiter.present) := by
  induction effects with
  | nil => rfl
  | cons effect effects ih =>
    rw [List.filterMap_cons]
    cases effect with
    | passed direction p => exact ih
    | ended cause => exact ih
    | reply r =>
      rw [Session.replies_reply_cons, List.filter_cons]
      simp only [effectOf?, answersTo, List.filterMap_cons] at ih ⊢
      by_cases h : r.waiter.number = number
      · simp [h, ih]
      · simp [h, ih]

theorem length_answersTo_effectOf (number k : Nat) (effects : List Session.Effect) :
    (answersTo number (effects.filterMap (effectOf? k))).length =
      ((Session.replies effects).map (·.waiter.number)).count number := by
  rw [answersTo_effectOf, List.length_map, ← List.countP_eq_length_filter, List.count,
    List.countP_map]
  rfl

/-! ## What the sessions do -/

theorem mem_queue {s : Server σ} {k : Nat} {w : Waiter} :
    w ∈ s.queue k ↔ ∃ x, s.sessions[k]? = some x ∧ w ∈ x.waiting := by
  rw [queue]
  cases s.sessions[k]? with
  | none => simp
  | some x => simp

theorem queue_of_getElem? {s : Server σ} {k : Nat} {x : Session σ} (h : s.sessions[k]? = some x) :
    s.queue k = x.waiting := by
  rw [queue, h]
  rfl

theorem mem_waiting {s : Server σ} {number : Nat} :
    number ∈ s.waiting ↔ ∃ k, number ∈ (s.queue k).map (·.number) := by
  simp only [waiting, List.mem_flatMap, List.mem_map, mem_queue]
  constructor
  · rintro ⟨x, hx, w, hw, rfl⟩
    obtain ⟨k, hk⟩ := List.mem_iff_getElem?.1 hx
    exact ⟨k, w, ⟨x, hk, hw⟩, rfl⟩
  · rintro ⟨k, w, ⟨x, hx, hw⟩, rfl⟩
    exact ⟨x, List.mem_of_getElem? hx, w, hw, rfl⟩

variable [Sink σ]

/-- A session loses no request when it acts. -/
theorem numbers_act {s : Server σ} (h : ∀ x ∈ s.sessions, x.Tidy) (k : Nat)
    (event : Session.Event σ) (number : Nat) :
    (answersTo number (s.act k event).2).length + (s.act k event).1.waiting.count number =
      s.waiting.count number +
        if k < s.sessions.length then (Session.joined event).count number else 0 := by
  cases hk : s.sessions[k]? with
  | none =>
    rw [act_of_none s k event hk, if_neg (Nat.not_lt.2 (List.getElem?_eq_none_iff.1 hk))]
    simp
  | some x =>
    obtain ⟨hlt, hx⟩ := List.getElem?_eq_some_iff.1 hk
    obtain ⟨l₁, l₂, hsplit, -, hset⟩ : ∃ l₁ l₂, s.sessions = l₁ ++ s.sessions[k] :: l₂ ∧
        l₁.length = k ∧ s.sessions.set k (x.step s.timeouts s.clock event).1 =
          l₁ ++ (x.step s.timeouts s.clock event).1 :: l₂ := List.exists_of_set hlt
    have hmoved := (Session.numbers_step s.timeouts s.clock
      (h x (List.mem_of_getElem? hk)).emptied event).count_eq number
    rw [act_of_some s k event hk, if_pos hlt, length_answersTo_effectOf, waiting, waiting, hset]
    rw [hx] at hsplit
    rw [hsplit]
    simp only [List.flatMap_append, List.flatMap_cons, List.count_append] at hmoved ⊢
    omega

/-! ### A requester goes away -/

omit [Sink σ] in
theorem waiting_departed (s : Server σ) (number : Option Nat) :
    (s.departed number).waiting = s.waiting := by
  cases number with
  | none => rfl
  | some number =>
    simp only [departed, leave, waiting, List.flatMap_map, Session.map_number_leave]

omit [Sink σ] in
theorem numbers_queue_departed (s : Server σ) (number : Option Nat) (k : Nat) :
    ((s.departed number).queue k).map (·.number) = (s.queue k).map (·.number) := by
  cases number with
  | none => rfl
  | some number =>
    rw [departed, leave, queue, queue, List.getElem?_map]
    cases s.sessions[k]? with
    | none => rfl
    | some x => exact Session.map_number_leave _ _

theorem tidy_departed {s : Server σ} (h : ∀ x ∈ s.sessions, x.Tidy) (number : Option Nat) :
    ∀ x ∈ (s.departed number).sessions, x.Tidy := by
  cases number with
  | none => exact h
  | some number =>
    intro y hy
    obtain ⟨x, hx, rfl⟩ := List.mem_map.1 hy
    exact (h x hx).step s.timeouts s.clock (.leave number)

omit [Sink σ] in
theorem tidy_ofTimeouts (timeouts : Timeouts) :
    ∀ x ∈ (ofTimeouts timeouts : Server σ).sessions, x.Tidy :=
  fun _ h => absurd h List.not_mem_nil

theorem tidy_step {s : Server σ} (h : ∀ x ∈ s.sessions, x.Tidy) (event : Event σ) :
    ∀ x ∈ (s.step event).1.sessions, x.Tidy :=
  forall_sessions_step (fun _ _ => Session.tidy_start _ _ _) (fun _ _ _ hx => hx.step _ _ _) h event

theorem tidy_run {s : Server σ} (h : ∀ x ∈ s.sessions, x.Tidy) (events : List (Event σ)) :
    ∀ x ∈ (s.run events).1.sessions, x.Tidy :=
  forall_sessions_run (fun _ _ => Session.tidy_start _ _ _) (fun _ _ _ hx => hx.step _ _ _) h events

/-! ### All events -/

/-- The request that an event brings to a session which there is. -/
def joining (s : Server σ) (event : Event σ) : List Nat :=
  match s.action? event with
  | some (k, action) => if k < s.sessions.length then Session.joined action else []
  | none => []

omit [Sink σ] in
/-- Only a request that reaches its queue brings one to a session. -/
theorem joined_of_action? {s : Server σ} {event : Event σ} {k number : Nat}
    {action : Session.Event σ} (h : s.action? event = some (k, action))
    (hjoined : number ∈ Session.joined action) :
    event = .join number ∧
      ∃ visit, s.arriving.find? (·.number = number) = some visit ∧ visit.session = k := by
  cases event with
  | join m =>
    obtain ⟨visit, hfound, heq⟩ := Option.map_eq_some_iff.1 h
    obtain ⟨rfl, rfl⟩ := Prod.mk.inj heq
    obtain rfl := List.mem_singleton.1 hjoined
    exact ⟨rfl, visit, hfound, rfl⟩
  | disconnect m =>
    obtain ⟨visit, -, heq⟩ := Option.map_eq_some_iff.1 h
    obtain ⟨-, rfl⟩ := Prod.mk.inj heq
    exact absurd hjoined List.not_mem_nil
  | forward m | abandon m =>
    obtain ⟨visit, -, heq⟩ := Option.bind_eq_some_iff.1 h
    cases hreceived : visit.received with
    | noPayload => rw [hreceived] at heq; cases heq
    | payload p =>
      rw [hreceived] at heq
      cases heq
      exact absurd hjoined List.not_mem_nil
  | arrive | write | leave | clear | pass => cases h
  | shutDown k =>
    rw [action?] at h
    split at h
    · cases h
    · cases h
      exact absurd hjoined List.not_mem_nil
  | _ =>
    cases h
    exact absurd hjoined List.not_mem_nil

/-- No request is lost when the sessions react. -/
theorem numbers_react {s : Server σ} (h : ∀ x ∈ s.sessions, x.Tidy) (event : Event σ)
    (number : Nat) :
    (answersTo number (s.react event).2).length + (s.react event).1.waiting.count number =
      s.waiting.count number + (s.joining event).count number := by
  rw [react, joining]
  cases s.action? event with
  | none =>
    dsimp only
    rw [waiting_departed]
    simp
  | some action =>
    obtain ⟨k, action⟩ := action
    have := numbers_act (tidy_departed h (s.departing? event)) k action number
    rw [waiting_departed, length_sessions_departed] at this
    dsimp only
    rw [this]
    split <;> rfl

omit [Sink σ] in
theorem opening_cases (s : Server σ) (event : Event σ) :
    s.opening event = [] ∨ ∃ device, s.opening event = [.start s.timeouts s.clock device] := by
  cases event with
  | arrive number request target =>
    simp only [opening]
    split
    · exact Or.inr ⟨_, rfl⟩
    · exact Or.inl rfl
  | _ => exact Or.inl rfl

/-- A session that was not there has just started. -/
theorem eq_start_of_new {s : Server σ} {event : Event σ} {k : Nat} {y : Session σ}
    (h : s.sessions[k]? = none) (hy : (s.step event).1.sessions[k]? = some y) :
    ∃ device, y = .start s.timeouts s.clock device := by
  have hnone : (s.react event).1.sessions[k]? = none := by rw [getElem?_react, h]; rfl
  rw [(step_reacts s event).1,
    List.getElem?_append_right (List.getElem?_eq_none_iff.1 hnone)] at hy
  rcases opening_cases s event with hopening | ⟨device, hopening⟩
  · rw [hopening] at hy
    cases hy
  · rw [hopening] at hy
    exact ⟨device, List.mem_singleton.1 (List.mem_of_getElem? hy)⟩

/-- Nobody waits for a session that has just been opened. -/
theorem waiting_step (s : Server σ) (event : Event σ) :
    (s.step event).1.waiting = (s.react event).1.waiting := by
  rw [waiting, waiting, (step_reacts s event).1, List.flatMap_append]
  rcases opening_cases s event with h | ⟨device, h⟩ <;> simp [h, Session.start]

omit [Sink σ] in
theorem count_remaining_le (visits : List Visit) (gone : Option Nat) (number : Nat) :
    (numbers (remaining visits gone)).count number ≤ (numbers visits).count number := by
  cases gone with
  | none => exact Nat.le_refl _
  | some m => exact (List.filter_sublist.map _).count_le number

omit [Sink σ] in
/-- A request joins once only. -/
theorem count_joining_le (s : Server σ) (event : Event σ) (number : Nat) :
    (numbers (remaining s.arriving (s.ceasing? event))).count number +
      (s.joining event).count number ≤ (numbers s.arriving).count number := by
  by_cases hjoin : event = .join number
  · subst hjoin
    have hgone : (numbers (remaining s.arriving (some number))).count number = 0 := by
      rw [List.count_eq_zero, numbers, remaining, without]
      simp
    rw [ceasing?, hgone, Nat.zero_add, joining, action?]
    cases hfound : s.arriving.find? (·.number = number) with
    | none => exact Nat.zero_le _
    | some visit =>
      have hmem : number ∈ numbers s.arriving :=
        List.mem_map.2 ⟨visit, List.mem_of_find?_eq_some hfound, by
          simpa using List.find?_some hfound⟩
      have := List.count_pos_iff.2 hmem
      dsimp only [Option.map_some]
      split
      · simpa [Session.joined] using this
      · exact Nat.zero_le _
  · have hnone : number ∉ s.joining event := by
      rw [joining]
      split
      · rename_i k action haction
        split
        · exact fun hmem => hjoin (joined_of_action? haction hmem).1
        · exact List.not_mem_nil
      · exact List.not_mem_nil
    rw [List.count_eq_zero.2 hnone]
    exact count_remaining_le _ _ _

omit [Sink σ] in
/-- A request that is answered on arrival is given no session. -/
theorem answersTo_remark (s : Server σ) (event : Event σ) (number : Nat) :
    (numbers (s.visiting event)).count number + (answersTo number (s.remark event)).length ≤
      event.arrival.count number := by
  cases event with
  | arrive m request target =>
    simp only [visiting, remark, arrive, Event.arrival]
    cases Received.ofMessage request with
    | error e => by_cases h : m = number <;> simp [numbers, answersTo, h]
    | ok received =>
      cases s.current <;> cases target <;> by_cases h : m = number <;>
        simp [numbers, answersTo, h]
  | clear k =>
    simp only [visiting, remark, clear]
    split
    · exact Nat.le_refl _
    · split <;> exact Nat.le_refl _
  | _ => exact Nat.le_refl _

/-- **The bound from above.**  What is answered, waits or is on its way after an event was there
before it, or arrives. -/
theorem balance_step {s : Server σ} (h : ∀ x ∈ s.sessions, x.Tidy) (event : Event σ)
    (number : Nat) :
    (answersTo number (s.step event).2).length + (s.step event).1.waiting.count number +
        (numbers (s.step event).1.arriving).count number ≤
      s.waiting.count number + (numbers s.arriving).count number + event.arrival.count number := by
  have hreact := numbers_react h event number
  have hjoining := count_joining_le s event number
  have hremark := answersTo_remark s event number
  rw [(step_reacts s event).2, answersTo_append, List.length_append, waiting_step, arriving_step,
    numbers, List.map_append, List.count_append]
  simp only [numbers] at *
  omega

omit [Sink σ] in
/-- Every number that a session lets in is one that joins. -/
theorem admitted_joining (s : Server σ) (event : Event σ) (number : Nat) :
    ((s.admitted event).map (·.1)).count number ≤ (s.joining event).count number := by
  cases event with
  | join m =>
    simp only [admitted, joining, action?]
    cases s.arriving.find? (·.number = m) with
    | none => exact Nat.zero_le _
    | some visit =>
      dsimp only [Option.map_some]
      split
      · rename_i hopen
        have hlt : visit.session < s.sessions.length := by
          rw [isOpen, Option.any_eq_true] at hopen
          obtain ⟨x, hx, -⟩ := hopen
          exact (List.getElem?_eq_some_iff.1 hx).1
        rw [if_pos hlt]
        exact Nat.le_refl _
      · exact Nat.zero_le _
  | _ => exact Nat.zero_le _

/-- What is answered when the sessions react is a reply of the one that acts. -/
theorem mem_answersTo_react {s : Server σ} {event : Event σ} {number : Nat} {a : Answer × Bool}
    (h : a ∈ answersTo number (s.react event).2) :
    ∃ k action x r, s.action? event = some (k, action) ∧
      (s.departed (s.departing? event)).sessions[k]? = some x ∧
      r ∈ Session.replies (x.step s.timeouts s.clock action).2 ∧ r.waiter.number = number ∧
      a = (r.answer, r.waiter.present) := by
  rw [react] at h
  cases haction : s.action? event with
  | none => rw [haction] at h; exact absurd h List.not_mem_nil
  | some action =>
    obtain ⟨k, action⟩ := action
    rw [haction] at h
    dsimp only at h
    cases hk : (s.departed (s.departing? event)).sessions[k]? with
    | none => rw [act_of_none _ k action hk] at h; exact absurd h List.not_mem_nil
    | some x =>
      rw [act_of_some _ k action hk, answersTo_effectOf, timeouts_departed, clock_departed] at h
      obtain ⟨r, hr, rfl⟩ := List.mem_map.1 h
      obtain ⟨hr, hnumber⟩ := List.mem_filter.1 hr
      exact ⟨k, action, x, r, rfl, hk, hr, by simpa using hnumber, rfl⟩

/-- What the sessions reply is settled. -/
theorem isSettled_react {s : Server σ} (h : ∀ x ∈ s.sessions, x.Tidy) (event : Event σ)
    (number : Nat) :
    ∀ a ∈ answersTo number (s.react event).2, isSettled a.1.statusCode = true := by
  intro a ha
  obtain ⟨k, action, x, r, -, hx, hr, -, rfl⟩ := mem_answersTo_react ha
  have hover := (tidy_departed h _ x (List.mem_of_getElem? hx)).emptied
  exact decide_eq_true (Session.status_step _ _ hover action r hr)

/-- **The bound from below.**  What waits, and what is let in, goes on to wait or is settled. -/
theorem admitted_step {s : Server σ} (h : ∀ x ∈ s.sessions, x.Tidy) (event : Event σ)
    (number : Nat) :
    s.waiting.count number + ((s.admitted event).map (·.1)).count number ≤
      (s.step event).1.waiting.count number +
        (answersTo number (s.step event).2).countP (isSettled ·.1.statusCode) := by
  have hreact := numbers_react h event number
  have hadmitted := admitted_joining s event number
  have hsettled := List.countP_eq_length.2 (isSettled_react h event number)
  rw [(step_reacts s event).2, answersTo_append, List.countP_append, waiting_step]
  omega

end Server
end Tunnel
end PollTunnel
