import PollTunnel.Proofs.Circuit.Far
import PollTunnel.Proofs.Requests.Presence

/-!
# Which session serves which request

Requests say nothing about where they belong.  A request is given to the session that has its turn
when it arrives (`Server.turn`): the one in place, or else the one that it opens.  A turn ends when
the session leaves its place (`turn_step`), so the sessions have their turns one after another, and
all of them are shut down except for the one in place (`Single`).

`Server.log` is what the sessions do for requests in a run, and `Server.turns` the requests as they
come, each with the turn that it finds.  `mem_log` says that the second decides about the first:
whatever is done for a request, however late, is done by the session of its arrival.
-/

set_option autoImplicit false

namespace PollTunnel
namespace Tunnel

/-- A connection that is shut down stays so. -/
theorem Session.shutDown_step {σ : Type} [Sink σ] (timeouts : Timeouts) (now : Nat) {s : Session σ}
    (h : s.phase = .shutDown) (event : Event σ) :
    (s.step timeouts now event).1.phase = .shutDown := by
  have hopen : s.isOpen = false := by rw [isOpen, h]
  cases event with
  | join number => rw [step_join_of_not_isOpen timeouts now number s hopen]; exact h
  | leave number | close | abandon p | device device => exact h
  | forward p =>
    simp only [step, forward]
    split <;> exact h
  | notice => simp [step, isRunning, h]
  | read outcome | wake | release | shutDown => simp [step, h]

namespace Server

variable {σ : Type}

/-! ## Services -/

/-- What a session does for a request. -/
inductive Deed (σ : Type) where
  /-- It is opened for the request, and is given it. -/
  | opens
  /-- It is given the request. -/
  | takes
  /-- It does what comes next for the request. -/
  | acts (action : Session.Event σ)
  /-- It answers the request. -/
  | answers (answer : Answer) (taken : Bool)

/-- Something that a session does for a request. -/
structure Service (σ : Type) where
  number : Nat
  session : Nat
  deed : Deed σ

/-- The payload that a session passes on for a request. -/
def Service.payload? (a : Service σ) : Option Payload :=
  match a.deed with
  | .acts action => Session.passedOn? action
  | _ => none

/-- The request that an event deals with, after its arrival. -/
def Event.request? : Event σ → Option Nat
  | .join number | .disconnect number | .forward number | .abandon number => some number
  | _ => none

/-- The answers among what a session causes. -/
def answering (session : Nat) (effects : List Effect) : List (Service σ) :=
  effects.filterMap fun
    | .answer number answer taken => some ⟨number, session, .answers answer taken⟩
    | _ => none

variable [Sink σ]

/-- What sessions do for requests at an event. -/
def services (s : Server σ) (event : Event σ) : List (Service σ) :=
  (s.visiting event).map (fun visit =>
      ⟨visit.number, visit.session, if s.current = none then .opens else .takes⟩) ++
    match s.action? event with
    | some (session, action) =>
      event.request?.toList.map (⟨·, session, .acts action⟩) ++
        answering session (s.react event).2
    | none => []

/-- What sessions do for requests in a run, in order. -/
def log (s : Server σ) : List (Event σ) → List (Service σ)
  | [] => []
  | event :: rest => s.services event ++ (s.step event).1.log rest

theorem log_append (s : Server σ) (before after : List (Event σ)) :
    s.log (before ++ after) = s.log before ++ (s.run before).1.log after := by
  induction before generalizing s with
  | nil => rfl
  | cons event before ih =>
    rw [List.cons_append, log, ih, log, run_cons, List.append_assoc]

theorem mem_log_of_mem_services {s : Server σ} {before after : List (Event σ)} {event : Event σ}
    {a : Service σ} (h : a ∈ (s.run before).1.services event) :
    a ∈ s.log (before ++ event :: after) := by
  rw [log_append, List.mem_append]
  exact Or.inr (List.mem_append_left _ h)

/-- What a session does for a request at an event: it is given it, does what comes next for it, or
answers it. -/
theorem mem_services {s : Server σ} {event : Event σ} {a : Service σ} :
    a ∈ s.services event ↔
      (∃ visit ∈ s.visiting event,
        a = ⟨visit.number, visit.session, if s.current = none then .opens else .takes⟩) ∨
      ∃ k action, s.action? event = some (k, action) ∧
        ((∃ number, event.request? = some number ∧ a = ⟨number, k, .acts action⟩) ∨
          ∃ number answer taken, .answer number answer taken ∈ (s.react event).2 ∧
            a = ⟨number, k, .answers answer taken⟩) := by
  have hanswering : ∀ (k : Nat) (effects : List Effect), a ∈ answering k effects ↔
      ∃ number answer taken, .answer number answer taken ∈ effects ∧
        a = ⟨number, k, .answers answer taken⟩ := by
    intro k effects
    rw [answering, List.mem_filterMap]
    constructor
    · rintro ⟨effect, heffect, heq⟩
      cases effect with
      | answer number answer taken => exact ⟨number, answer, taken, heffect, (Option.some.inj heq).symm⟩
      | _ => cases heq
    · rintro ⟨number, answer, taken, heffect, rfl⟩
      exact ⟨_, heffect, rfl⟩
  rw [services, List.mem_append, List.mem_map]
  refine or_congr (exists_congr fun visit => and_congr_right fun _ => eq_comm) ?_
  cases s.action? event with
  | none => simp
  | some action =>
    obtain ⟨k, action⟩ := action
    dsimp only
    rw [List.mem_append, hanswering, List.mem_map]
    constructor
    · rintro (⟨number, hnumber, rfl⟩ | hanswer)
      · exact ⟨k, action, rfl, Or.inl ⟨number, Option.mem_toList.1 hnumber, rfl⟩⟩
      · exact ⟨k, action, rfl, Or.inr hanswer⟩
    · rintro ⟨k', action', heq, h⟩
      cases heq
      rcases h with ⟨number, hnumber, rfl⟩ | hanswer
      · exact Or.inl ⟨number, Option.mem_toList.2 hnumber, rfl⟩
      · exact Or.inr hanswer

/-! ## Turns -/

omit [Sink σ] in
/-- The session that a request is given to, or would be. -/
def turn (s : Server σ) : Nat := s.current.getD s.sessions.length

/-- The sessions that leave their place. -/
def clearances (effects : List Effect) : List Nat :=
  effects.filterMap fun
    | .cleared session => some session
    | _ => none

/-- **One target connection at a time.**  The session in place is the newest one, and all others are
shut down. -/
structure Single (s : Server σ) : Prop where
  newest : ∀ k, s.current = some k → s.sessions.length = k + 1
  others : ∀ k x, s.sessions[k]? = some x → s.current ≠ some k → x.phase = .shutDown

omit [Sink σ] in
theorem single_ofTimeouts (timeouts : Timeouts) : (ofTimeouts timeouts : Server σ).Single :=
  ⟨nofun, nofun⟩

omit [Sink σ] in
theorem clearances_append (a b : List Effect) :
    clearances (a ++ b) = clearances a ++ clearances b :=
  List.filterMap_append

/-- Only a session whose connection is shut down leaves its place. -/
theorem shutDown_of_clear {s : Server σ} {k : Nat} (h : (s.step (.clear k)).2 = [.cleared k])
    {x : Session σ} (hx : s.sessions[k]? = some x) : x.phase = .shutDown := by
  simp only [Server.step, clear, hx] at h
  split at h
  · rename_i hcleared
    exact hcleared.1
  · cases h

theorem Single.step {s : Server σ} (h : s.Single) (event : Event σ) : (s.step event).1.Single := by
  have hlength := length_sessions_step s event
  -- a session that was shut down still is
  have hshut : ∀ (k : Nat) (x y : Session σ), s.sessions[k]? = some x →
      (s.step event).1.sessions[k]? = some y → x.phase = .shutDown → y.phase = .shutDown := by
    intro k x y hx hy hphase
    obtain ⟨q, -, ⟨-, hstep⟩ | ⟨action, -, hstep⟩⟩ := session_step_cases hx event
    · obtain rfl := Option.some.inj (hstep.symm.trans hy)
      exact hphase
    · obtain rfl := Option.some.inj (hstep.symm.trans hy)
      exact Session.shutDown_step _ _ (s := { x with waiting := q }) hphase action
  -- and there is no other new one than that which is opened
  have hold : ∀ (k : Nat) (y : Session σ), (s.step event).1.sessions[k]? = some y →
      k ≠ s.sessions.length → ∃ x, s.sessions[k]? = some x := by
    intro k y hy hne
    have hlt := (List.getElem?_eq_some_iff.1 hy).1
    have hone : (s.opening event).length ≤ 1 := by
      rcases opening_cases s event with hopening | ⟨device, hopening⟩ <;> simp [hopening]
    exact ⟨_, List.getElem?_eq_getElem (show k < s.sessions.length by omega)⟩
  rcases current_step_cases s event with ⟨hcurrent, hopening⟩ |
    ⟨j, rfl, hplace, hcurrent, heffects, hopening⟩ | ⟨hfree, hcurrent, -, device, hopening⟩
  · rw [hopening, List.length_nil, Nat.add_zero] at hlength
    refine ⟨fun k hk => ?_, fun k y hy hne => ?_⟩
    · rw [hlength]
      exact h.newest k (hcurrent ▸ hk)
    · have hlt := (List.getElem?_eq_some_iff.1 hy).1
      obtain ⟨x, hx⟩ := hold k y hy (by omega)
      exact hshut k x y hx hy (h.others k x hx (hcurrent ▸ hne))
  · rw [hopening, List.length_nil, Nat.add_zero] at hlength
    refine ⟨fun k hk => ?_, fun k y hy _ => ?_⟩
    · rw [hcurrent] at hk
      cases hk
    · have hlt := (List.getElem?_eq_some_iff.1 hy).1
      obtain ⟨x, hx⟩ := hold k y hy (by omega)
      refine hshut k x y hx hy ?_
      by_cases hk : s.current = some k
      · obtain rfl := Option.some.inj (hplace.symm.trans hk)
        exact shutDown_of_clear heffects hx
      · exact h.others k x hx hk
  · rw [hopening, List.length_singleton] at hlength
    refine ⟨fun k hk => ?_, fun k y hy hne => ?_⟩
    · rw [hcurrent] at hk
      cases hk
      exact hlength
    · have hk : k ≠ s.sessions.length := fun heq => hne (heq ▸ hcurrent)
      obtain ⟨x, hx⟩ := hold k y hy hk
      exact hshut k x y hx hy (h.others k x hx (by rw [hfree]; nofun))

/-- What the sessions do clears no place. -/
theorem clearances_react (s : Server σ) (event : Event σ) :
    clearances (s.react event).2 = [] := by
  refine List.filterMap_eq_nil_iff.2 fun effect heffect => ?_
  rw [react] at heffect
  cases haction : s.action? event with
  | none => rw [haction] at heffect; exact absurd heffect List.not_mem_nil
  | some action =>
    obtain ⟨k, action⟩ := action
    rw [haction] at heffect
    dsimp only at heffect
    cases hk : (s.departed (s.departing? event)).sessions[k]? with
    | none => rw [act_of_none _ k action hk] at heffect; exact absurd heffect List.not_mem_nil
    | some x =>
      rw [act_of_some _ k action hk] at heffect
      obtain ⟨e, -, he⟩ := List.mem_filterMap.1 heffect
      cases e with
      | reply r => cases he; rfl
      | ended cause => cases he; rfl
      | passed direction p => cases he

/-- **The turn passes on when a session leaves its place**, and only then. -/
theorem turn_step {s : Server σ} (h : s.Single) (event : Event σ) :
    (s.step event).1.turn = s.turn + (clearances (s.step event).2).length := by
  have hlength := length_sessions_step s event
  rcases current_step_cases s event with ⟨hcurrent, hopening⟩ |
    ⟨k, rfl, hplace, hcurrent, heffects, hopening⟩ | ⟨hfree, hcurrent, heffects, device, hopening⟩
  · have hnone : clearances (s.step event).2 = [] := by
      rw [(step_reacts s event).2, clearances_append, clearances_react, List.nil_append]
      cases event with
      | arrive number request target =>
        simp only [remark, arrive]
        cases Received.ofMessage request with
        | error e => rfl
        | ok received => cases s.current <;> cases target <;> rfl
      | clear k =>
        simp only [Server.step, clear, remark] at hcurrent ⊢
        split at hcurrent
        · rfl
        · split at hcurrent
          · rename_i hcleared
            rw [hcleared.2] at hcurrent
            cases hcurrent
          · rename_i hkept
            rw [if_neg hkept]
            rfl
      | _ => rfl
    rw [turn, turn, hcurrent, hlength, hopening, hnone]
    rfl
  · rw [turn, turn, hcurrent, hplace, hlength, hopening, heffects, h.newest k hplace]
    rfl
  · rw [turn, turn, hcurrent, hfree, heffects]
    rfl

theorem Single.run {s : Server σ} (h : s.Single) (events : List (Event σ)) :
    (s.run events).1.Single := by
  induction events generalizing s with
  | nil => exact h
  | cons event rest ih => exact ih (h.step event)

/-- A request is given to the session that has its turn. -/
theorem session_eq_turn {s : Server σ} {event : Event σ} {visit : Visit}
    (h : visit ∈ s.visiting event) : visit.session = s.turn := by
  rcases session_of_mem_visiting h with hplace | ⟨hsession, device, hopening⟩
  · rw [turn, hplace]
    rfl
  · -- a session is opened only if there is none in place
    rcases current_step_cases s event with ⟨-, hnone⟩ | ⟨_, -, -, -, -, hnone⟩ | ⟨hfree, -⟩
    · rw [hopening] at hnone
      cases hnone
    · rw [hopening] at hnone
      cases hnone
    · rw [turn, hfree, hsession]
      rfl

/-! ## A request stays with its session -/

omit [Sink σ] in
/-- A request is with a session: on its way to it, let in, or waiting for its data. -/
def Attends (s : Server σ) (number k : Nat) : Prop :=
  (∃ visit ∈ s.arriving ++ s.forwarding, visit.number = number ∧ visit.session = k) ∨
    number ∈ (s.queue k).map (·.number)

omit [Sink σ] in
/-- An event deals with a request that is on its way or was let in. -/
theorem exists_visit_of_action? {s : Server σ} {event : Event σ} {number k : Nat}
    {action : Session.Event σ} (hnumber : event.request? = some number)
    (h : s.action? event = some (k, action)) :
    ∃ visit ∈ s.arriving ++ s.forwarding, visit.number = number ∧ visit.session = k := by
  cases event with
  | join m =>
    cases hnumber
    obtain ⟨visit, hfound, heq⟩ := Option.map_eq_some_iff.1 h
    cases heq
    exact ⟨visit, List.mem_append_left _ (List.mem_of_find?_eq_some hfound),
      by simpa using List.find?_some hfound, rfl⟩
  | disconnect m =>
    cases hnumber
    obtain ⟨visit, hfound, heq⟩ := Option.map_eq_some_iff.1 h
    cases heq
    have hvisit : visit.number = number ∧ visit.disconnect = true := by
      simpa using List.find?_some hfound
    exact ⟨visit, List.mem_append_right _ (List.mem_of_find?_eq_some hfound), hvisit.1, rfl⟩
  | forward m | abandon m =>
    cases hnumber
    obtain ⟨visit, hfound, heq⟩ := Option.bind_eq_some_iff.1 h
    obtain ⟨hmem, hvisit, -⟩ := of_forwarding? hfound
    refine ⟨visit, List.mem_append_right _ hmem, hvisit, ?_⟩
    cases hreceived : visit.received <;> rw [hreceived] at heq <;> cases heq
    rfl
  | _ => cases hnumber

/-- What a session does, it does for a request that is with it, or arrives. -/
theorem attends_of_mem_services {s : Server σ} (h : ∀ x ∈ s.sessions, x.Tidy) {event : Event σ}
    {a : Service σ} (ha : a ∈ s.services event) :
    s.Attends a.number a.session ∨
      ∃ visit ∈ s.visiting event, visit.number = a.number ∧ visit.session = a.session := by
  rcases mem_services.1 ha with ⟨visit, hvisit, rfl⟩ |
    ⟨k, action, haction, ⟨number, hnumber, rfl⟩ | ⟨number, answer, taken, hanswer, rfl⟩⟩
  · exact Or.inr ⟨visit, hvisit, rfl, rfl⟩
  · exact Or.inl (Or.inl (exists_visit_of_action? hnumber haction))
  · have hmem : (answer, taken) ∈ answersTo number (s.react event).2 :=
      List.mem_filterMap.2 ⟨_, hanswer, by simp⟩
    obtain ⟨j, action', x, r, haction', hx, hr, hnumber, -⟩ := mem_answersTo_react hmem
    obtain ⟨rfl, rfl⟩ := Prod.mk.inj (Option.some.inj (haction.symm.trans haction'))
    have htidy := tidy_departed h _ x (List.mem_of_getElem? hx)
    have hbefore := (Session.numbers_step s.timeouts s.clock htidy.emptied action).subset
      (List.mem_append_left _ (List.mem_map.2 ⟨r, hr, hnumber⟩))
    rcases List.mem_append.1 hbefore with hwaits | hjoined
    · rw [← queue_of_getElem? hx, numbers_queue_departed] at hwaits
      exact Or.inl (Or.inr hwaits)
    · obtain ⟨rfl, visit, hfound, rfl⟩ := joined_of_action? haction hjoined
      exact Or.inl (Or.inl ⟨visit, List.mem_append_left _ (List.mem_of_find?_eq_some hfound),
        by simpa using List.find?_some hfound, rfl⟩)

omit [Sink σ] in
/-- A visit is as it was, or something happened to it. -/
theorem exists_of_mem_changedBy {s : Server σ} {event : Event σ} {visits : List Visit}
    {visit : Visit} (h : visit ∈ changedBy visits (s.changing? event)) :
    ∃ v ∈ visits,
      visit = v ∨ ∃ change, s.changing? event = some (v, change) ∧ visit = change v := by
  cases hchange : s.changing? event with
  | none =>
    rw [hchange] at h
    exact ⟨visit, h, .inl rfl⟩
  | some row =>
    obtain ⟨changing, change⟩ := row
    rw [hchange] at h
    obtain ⟨v, hv, rfl⟩ := List.mem_map.1 h
    refine ⟨v, hv, ?_⟩
    by_cases heq : v = changing
    · subst heq
      rw [if_pos rfl]
      exact .inr ⟨change, rfl, rfl⟩
    · rw [if_neg heq]
      exact .inl rfl

omit [Sink σ] in
/-- A visit keeps its number and its session, whatever happens to it. -/
theorem mem_changedBy {s : Server σ} {event : Event σ} {visits : List Visit} {visit : Visit}
    (h : visit ∈ changedBy visits (s.changing? event)) :
    ∃ v ∈ visits, v.number = visit.number ∧ v.session = visit.session := by
  obtain ⟨v, hv, rfl | ⟨change, hchange, rfl⟩⟩ := exists_of_mem_changedBy h
  · exact ⟨visit, hv, rfl, rfl⟩
  · obtain ⟨hnumber, hsession, -⟩ := kept_of_changing? hchange v
    exact ⟨v, hv, hnumber.symm, hsession.symm⟩

omit [Sink σ] in
/-- A request that is let in was on its way. -/
theorem mem_entering {s : Server σ} {event : Event σ} {visit : Visit}
    (h : visit ∈ s.entering event) : visit ∈ s.arriving := by
  cases event with
  | join number =>
    simp only [entering] at h
    split at h
    · rename_i found hfound
      split at h
      · obtain rfl := List.mem_singleton.1 h
        exact List.mem_of_find?_eq_some hfound
      · exact absurd h List.not_mem_nil
    · exact absurd h List.not_mem_nil
  | _ => exact absurd h List.not_mem_nil

omit [Sink σ] in
theorem mem_admitted {s : Server σ} {event : Event σ} {number k : Nat}
    (h : (number, k) ∈ s.admitted event) :
    ∃ visit ∈ s.arriving, visit.number = number ∧ visit.session = k := by
  cases event with
  | join m =>
    simp only [admitted] at h
    split at h
    · rename_i visit hfound
      split at h
      · cases List.mem_singleton.1 h
        exact ⟨visit, List.mem_of_find?_eq_some hfound, by simpa using List.find?_some hfound, rfl⟩
      · exact absurd h List.not_mem_nil
    · exact absurd h List.not_mem_nil
  | _ => exact absurd h List.not_mem_nil

/-- **No request changes its session.**  Who is with a session after an event was with it before, or
arrives. -/
theorem attends_of_step {s : Server σ} (h : ∀ x ∈ s.sessions, x.Tidy) {event : Event σ}
    {number k : Nat} (ha : (s.step event).1.Attends number k) :
    s.Attends number k ∨
      ∃ visit ∈ s.visiting event, visit.number = number ∧ visit.session = k := by
  rcases ha with ⟨visit, hvisit, rfl, rfl⟩ | hwaits
  · rw [arriving_step, forwarding_step] at hvisit
    rcases List.mem_append.1 hvisit with hvisit | hvisit
    · rcases List.mem_append.1 hvisit with hvisit | hvisit
      · have hbefore := remaining_subset _ _ hvisit
        exact Or.inl (Or.inl ⟨visit, List.mem_append_left _ hbefore, rfl, rfl⟩)
      · exact Or.inr ⟨visit, hvisit, rfl, rfl⟩
    · refine Or.inl (Or.inl ?_)
      rcases List.mem_append.1 hvisit with hvisit | hvisit
      · obtain ⟨v, hv, hnumber, hsession⟩ := mem_changedBy hvisit
        exact ⟨v, List.mem_append_right _ (remaining_subset _ _ hv), hnumber, hsession⟩
      · exact ⟨visit, List.mem_append_left _ (mem_entering hvisit), rfl, rfl⟩
  · rcases mem_queue_step h hwaits with hwaits | hadmitted
    · exact Or.inl (Or.inr hwaits)
    · obtain ⟨visit, hvisit, hnumber, hsession⟩ := mem_admitted hadmitted
      exact Or.inl (Or.inl ⟨visit, List.mem_append_left _ hvisit, hnumber, hsession⟩)

/-- The requests that sessions are given in a run, each with how many sessions left their place
before; `left` of them had done so already. -/
def turns (s : Server σ) (left : Nat) : List (Event σ) → List (Nat × Nat)
  | [] => []
  | event :: rest =>
    (s.visiting event).map (fun visit => (visit.number, left)) ++
      (s.step event).1.turns (left + (clearances (s.step event).2).length) rest

/-- Whatever is done for a request in a run, it was with that session from the start, or was given
to it in its turn. -/
theorem mem_log {s : Server σ} (h : ∀ x ∈ s.sessions, x.Tidy) (hsingle : s.Single)
    {events : List (Event σ)} {a : Service σ} (ha : a ∈ s.log events) :
    s.Attends a.number a.session ∨ (a.number, a.session) ∈ s.turns s.turn events := by
  induction events generalizing s with
  | nil => exact absurd ha List.not_mem_nil
  | cons event rest ih =>
    have hvisit : (∃ visit ∈ s.visiting event,
        visit.number = a.number ∧ visit.session = a.session) →
        (a.number, a.session) ∈ s.turns s.turn (event :: rest) := by
      rintro ⟨visit, hvisit, hnumber, hsession⟩
      refine List.mem_append_left _ (List.mem_map.2 ⟨visit, hvisit, ?_⟩)
      rw [← hnumber, ← hsession, session_eq_turn hvisit]
    rcases List.mem_append.1 ha with ha | ha
    · exact (attends_of_mem_services h ha).imp_right hvisit
    · rcases ih (tidy_step h event) (hsingle.step event) ha with hattends | hturn
      · exact (attends_of_step h hattends).imp_right hvisit
      · rw [turn_step hsingle] at hturn
        exact Or.inr (List.mem_append_right _ hturn)

/-- Whoever is given to a session in its turn is served by it. -/
theorem exists_service_of_turns {s : Server σ} (hsingle : s.Single) {events : List (Event σ)}
    {number k : Nat} (h : (number, k) ∈ s.turns s.turn events) :
    ∃ a ∈ s.log events, a.number = number ∧ a.session = k := by
  induction events generalizing s with
  | nil => exact absurd h List.not_mem_nil
  | cons event rest ih =>
    rcases List.mem_append.1 h with h | h
    · obtain ⟨visit, hvisit, heq⟩ := List.mem_map.1 h
      obtain ⟨rfl, rfl⟩ := Prod.mk.inj heq
      refine ⟨_, List.mem_append_left _ (mem_services.2 (Or.inl ⟨visit, hvisit, rfl⟩)), rfl, ?_⟩
      exact session_eq_turn hvisit
    · rw [← turn_step hsingle] at h
      obtain ⟨a, ha, hservice⟩ := ih (hsingle.step event) h
      exact ⟨a, List.mem_append_right _ ha, hservice⟩

/-- A request is given to a session when it arrives. -/
theorem count_turns_le (s : Server σ) (left : Nat) (events : List (Event σ)) (number : Nat) :
    ((s.turns left events).map (·.1)).count number ≤ (arrivals events).count number := by
  induction events generalizing s left with
  | nil => exact Nat.le_refl _
  | cons event rest ih =>
    have hrest := ih (s.step event).1 (left + (clearances (s.step event).2).length)
    have hvisiting := answersTo_remark s event number
    have hnumbers : ((s.visiting event).map fun visit => (visit.number, left)).map (·.1) =
        numbers (s.visiting event) := List.map_map
    rw [turns, List.map_append, hnumbers, List.count_append, arrivals, List.flatMap_cons,
      List.count_append]
    rw [arrivals] at hrest
    omega

/-! ## Whom a session is opened for -/

omit [Sink σ] in
/-- A request arrives alone. -/
theorem eq_of_mem_visiting {s : Server σ} {event : Event σ} {v w : Visit}
    (hv : v ∈ s.visiting event) (hw : w ∈ s.visiting event) : v = w := by
  cases event with
  | arrive number request target =>
    simp only [visiting] at hv hw
    split at hv <;> simp_all
  | _ => cases hv

/-- A session is opened for a request if there is none in place, and gets the next number. -/
theorem session_of_opens {s : Server σ} {event : Event σ} {a : Service σ}
    (ha : a ∈ s.services event) (hopens : a.deed = .opens) :
    s.current = none ∧ a.session = s.sessions.length ∧
      (∃ visit ∈ s.visiting event, visit.number = a.number) ∧
      (s.step event).1.sessions.length = s.sessions.length + 1 := by
  rcases mem_services.1 ha with ⟨visit, hvisit, rfl⟩ |
    ⟨k, action, -, ⟨number, -, rfl⟩ | ⟨number, answer, taken, -, rfl⟩⟩
  · have hcurrent : s.current = none := by
      by_cases hc : s.current = none
      · exact hc
      · rw [if_neg hc] at hopens
        cases hopens
    have hlength := length_sessions_step s event
    rcases session_of_mem_visiting hvisit with hplace | ⟨hsession, device, hopening⟩
    · rw [hcurrent] at hplace
      cases hplace
    · rw [hopening] at hlength
      exact ⟨hcurrent, hsession, ⟨visit, hvisit, rfl⟩, hlength⟩
  · cases hopens
  · cases hopens

theorem length_le_of_opens {s : Server σ} {events : List (Event σ)} {a : Service σ}
    (ha : a ∈ s.log events) (hopens : a.deed = .opens) : s.sessions.length ≤ a.session := by
  induction events generalizing s with
  | nil => exact absurd ha List.not_mem_nil
  | cons event rest ih =>
    rcases List.mem_append.1 ha with ha | ha
    · exact Nat.le_of_eq (session_of_opens ha hopens).2.1.symm
    · refine Nat.le_trans ?_ (ih ha)
      rw [length_sessions_step]
      exact Nat.le_add_right _ _

/-- **A session is opened for one request.** -/
theorem number_eq_of_opens {s : Server σ} {events : List (Event σ)} {a b : Service σ}
    (ha : a ∈ s.log events) (hb : b ∈ s.log events) (hopensa : a.deed = .opens)
    (hopensb : b.deed = .opens) (hsession : a.session = b.session) : a.number = b.number := by
  induction events generalizing s with
  | nil => exact absurd ha List.not_mem_nil
  | cons event rest ih =>
    -- a session that is opened later has a greater number
    have hlater : ∀ {c d : Service σ}, c ∈ s.services event → c.deed = .opens →
        d ∈ (s.step event).1.log rest → d.deed = .opens → c.session < d.session := by
      intro c d hc hopensc hd hopensd
      obtain ⟨-, hnew, -, hlength⟩ := session_of_opens hc hopensc
      have := length_le_of_opens hd hopensd
      omega
    rcases List.mem_append.1 ha with ha | ha <;> rcases List.mem_append.1 hb with hb | hb
    · obtain ⟨-, -, ⟨v, hv, hav⟩, -⟩ := session_of_opens ha hopensa
      obtain ⟨-, -, ⟨w, hw, hbw⟩, -⟩ := session_of_opens hb hopensb
      rw [← hav, ← hbw, eq_of_mem_visiting hv hw]
    · exact absurd hsession (Nat.ne_of_lt (hlater ha hopensa hb hopensb))
    · exact absurd hsession (Nat.ne_of_gt (hlater hb hopensb ha hopensa))
    · exact ih ha hb

end Server
end Tunnel
end PollTunnel
