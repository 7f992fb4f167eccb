import PollTunnel.Proofs.Handover.Runs
import PollTunnel.Proofs.Sessions.Leaving
import PollTunnel.Proofs.Sessions.Writers

/-!
# One session after another

A server has one live session at most, and the next one begins from nothing when the last has left
its place.  `Server.Succession` collects what this means at any moment of a run: which session is in
place and how many are counted, what opens one and what ends it, how it leaves, and that the answers
of every session are numbered from one on.

The last of these is the only part that looks at what sessions do between their beginning and their
end (`Numbers.step`); it rests on the accounts that each session keeps of its chunks.
-/

set_option autoImplicit false

namespace PollTunnel
namespace Tunnel

/-- Nothing has happened to a session yet. -/
structure Session.Fresh {σ : Type} (x : Session σ) (device : σ) : Prop where
  isOpen : x.isOpen = true
  /-- The next payload that is passed on to the target is the first. -/
  last : x.forwarder.last = 0
  queue : x.forwarder.queue = []
  /-- The target was told nothing. -/
  outlet : x.forwarder.outlet = { device }
  /-- No chunk was numbered. -/
  chunks : x.chunks = 0
  waiting : x.waiting = []

namespace Server

variable {σ : Type}

/-! ## The numbers of the answers -/

/-- The payloads that requesters take from one session. -/
def handouts (k : Nat) (services : List (Service σ)) : List Payload :=
  services.filterMap fun a =>
    match a.deed with
    | .answers (.payload p) true => if a.session = k then some p else none
    | _ => none

theorem handouts_append (k : Nat) (a b : List (Service σ)) :
    handouts k (a ++ b) = handouts k a ++ handouts k b :=
  List.filterMap_append

theorem handouts_answers_cons (k number session : Nat) (answer : Answer) (taken : Bool)
    (services : List (Service σ)) :
    handouts k (⟨number, session, .answers answer taken⟩ :: services) =
      (if session = k then handed [.answer number answer taken] else []) ++
        handouts k services := by
  cases answer <;> cases taken <;> by_cases hk : session = k <;> simp [handouts, handed, hk]

theorem handouts_answering (j k : Nat) (effects : List Effect) :
    handouts k (answering (σ := σ) j effects) = if j = k then handed effects else [] := by
  induction effects with
  | nil => simp [handouts, answering, handed]
  | cons effect effects ih =>
    cases effect with
    | answer number answer taken =>
      show handouts k (⟨number, j, .answers answer taken⟩ :: answering j effects) = _
      rw [handouts_answers_cons, ih]
      by_cases hj : j = k
      · rw [if_pos hj, if_pos hj, if_pos hj, ← handed_append]
        rfl
      · rw [if_neg hj, if_neg hj, if_neg hj]
        rfl
    | opened _ | ended _ _ | cleared _ => exact ih

variable [Sink σ]

/-- A session hands out what it answers when it acts. -/
theorem handouts_services (s : Server σ) (event : Event σ) (k : Nat) :
    handouts k (s.services event) =
      match s.action? event with
      | some (j, _) => if j = k then handed (s.react event).2 else []
      | none => [] := by
  have hvisits : handouts k ((s.visiting event).map fun visit : Visit =>
      (⟨visit.number, visit.session, if s.current = none then .opens else .takes⟩ : Service σ)) =
      [] := by
    refine List.filterMap_eq_nil_iff.2 fun a ha => ?_
    obtain ⟨visit, -, rfl⟩ := List.mem_map.1 ha
    by_cases hcurrent : s.current = none <;> simp [hcurrent]
  rw [services, handouts_append, hvisits, List.nil_append]
  cases haction : s.action? event with
  | none => rfl
  | some action =>
    obtain ⟨j, action⟩ := action
    have hacts : handouts k (event.request?.toList.map fun number : Nat =>
        (⟨number, j, .acts action⟩ : Service σ)) = [] := by
      refine List.filterMap_eq_nil_iff.2 fun a ha => ?_
      obtain ⟨number, -, rfl⟩ := List.mem_map.1 ha
      rfl
    dsimp only
    rw [handouts_append, hacts, List.nil_append, handouts_answering]

theorem handouts_of_action {s : Server σ} {event : Event σ} {k : Nat} {action : Session.Event σ}
    (h : s.action? event = some (k, action)) {x : Session σ}
    (hx : (s.departed (s.departing? event)).sessions[k]? = some x) :
    handouts k (s.services event) =
      Reply.handed (Session.replies (x.step s.timeouts s.clock action).2) := by
  rw [handouts_services, react, h]
  dsimp only
  rw [if_pos rfl, act_of_some _ k action hx, handed_effectOf, timeouts_departed, clock_departed]

theorem handouts_of_others {s : Server σ} {event : Event σ} {k : Nat}
    (h : ∀ action, s.action? event ≠ some (k, action)) : handouts k (s.services event) = [] := by
  rw [handouts_services]
  split
  · rename_i j action haction
    exact if_neg fun hj : j = k => h action (hj ▸ haction)
  · rfl

/-- A session that is not there hands out nothing. -/
theorem handouts_of_none {s : Server σ} {k : Nat} (hx : s.sessions[k]? = none) (event : Event σ) :
    handouts k (s.services event) = [] := by
  by_cases hother : ∀ action, s.action? event ≠ some (k, action)
  · exact handouts_of_others hother
  · obtain ⟨action, haction⟩ : ∃ action, s.action? event = some (k, action) := by simpa using hother
    rw [handouts_services, haction, react_of_none hx haction]
    exact if_pos rfl

/-- What a session handed out in the past agrees with its accounts. -/
structure Numbers (s : Server σ) (k : Nat) (past : List Payload) : Prop where
  none : s.sessions[k]? = none → past = []
  accounts : ∀ x, s.sessions[k]? = some x → ∃ taken, Session.Accounts x past taken

/-- **Every event keeps the accounts of every session.** -/
theorem Numbers.step {s : Server σ} {k : Nat} {past : List Payload} (h : s.Numbers k past)
    (event : Event σ) :
    (s.step event).1.Numbers k (past ++ handouts k (s.services event)) := by
  cases hx : s.sessions[k]? with
  | none =>
    rw [h.none hx, handouts_of_none hx, List.nil_append]
    refine ⟨fun _ => rfl, fun y hy => ⟨[], ?_⟩⟩
    obtain ⟨device, rfl⟩ := eq_start_of_new hx hy
    exact Session.accounts_start _ _ _
  | some x =>
    obtain ⟨taken, haccounts⟩ := h.accounts x hx
    obtain ⟨q, hq, ⟨hother, hy⟩ | ⟨action, haction, hy⟩⟩ := session_step_cases hx event
    -- the accounts say nothing of those who wait
    all_goals have hwaiting : Session.Accounts { x with waiting := q } past taken :=
      ⟨haccounts.follows, haccounts.data, haccounts.behind, haccounts.current⟩
    · rw [handouts_of_others hother, List.append_nil]
      refine ⟨fun hnone => absurd (hy.symm.trans hnone) (Option.some_ne_none _), ?_⟩
      intro y hsame
      refine ⟨taken, ?_⟩
      obtain rfl := Option.some.inj (hy.symm.trans hsame)
      exact hwaiting
    · rw [handouts_of_action haction hq]
      refine ⟨fun hnone => absurd (hy.symm.trans hnone) (Option.some_ne_none _), ?_⟩
      intro y hsame
      obtain rfl := Option.some.inj (hy.symm.trans hsame)
      exact ⟨_, hwaiting.step s.timeouts s.clock action⟩

theorem Numbers.run {s : Server σ} {k : Nat} {past : List Payload} (h : s.Numbers k past)
    (events : List (Event σ)) : (s.run events).1.Numbers k (past ++ handouts k (s.log events)) := by
  induction events generalizing s past with
  | nil =>
    rw [show handouts k (s.log []) = [] from rfl, List.append_nil]
    exact h
  | cons event rest ih =>
    rw [log, handouts_append, ← List.append_assoc]
    exact ih (h.step event)

omit [Sink σ] in
/-- The payloads that requesters take from a session bear the numbers from one on. -/
theorem Numbers.numbered {s : Server σ} {k : Nat} {past : List Payload} (h : s.Numbers k past) :
    past.map (·.sequence) = List.range' 1 past.length := by
  cases hx : s.sessions[k]? with
  | none =>
    rw [h.none hx]
    rfl
  | some x =>
    obtain ⟨taken, haccounts⟩ := h.accounts x hx
    exact haccounts.follows

/-! ## What opens a session -/

omit [Sink σ] in
theorem arrive_of_free {s : Server σ} {request : Message} {received : Received}
    (hfree : s.current = none) (hmessage : Received.ofMessage request = .ok received) (number : Nat)
    (device : σ) :
    s.arrive number request (some device) =
      ({ s.openSession device with
          arriving := s.arriving ++
            [⟨number, s.sessions.length, isDisconnect request.headers, received, false⟩] },
        [.opened s.sessions.length]) := by
  simp only [arrive, hmessage, hfree]
  rfl

omit [Sink σ] in
/-- A target that cannot be reached leaves the server as it was. -/
theorem arrive_of_unreachable {s : Server σ} {request : Message} {received : Received}
    (hfree : s.current = none) (hmessage : Received.ofMessage request = .ok received)
    (number : Nat) :
    s.arrive number request none = (s, [.answer number (.status Status.gone) true]) := by
  simp only [arrive, hmessage, hfree]

/-- **A session is opened by a well-formed request that finds none in place**, and by nothing else.
-/
theorem opened_step {s : Server σ} {event : Event σ} {k : Nat}
    (h : .opened k ∈ (s.step event).2) :
    s.current = none ∧ k = s.sessions.length ∧ ∃ number request device received,
      event = .arrive number request (some device) ∧
        Received.ofMessage request = .ok received := by
  have hmem : k ∈ openings (s.step event).2 := List.mem_filterMap.2 ⟨_, h, rfl⟩
  rw [openings_step, List.mem_map] at hmem
  obtain ⟨x, hx, rfl⟩ := hmem
  cases event with
  | arrive number request target =>
    simp only [opening] at hx
    split at hx
    · rename_i received device hmessage hcurrent
      exact ⟨hcurrent, rfl, number, request, device, received, rfl, hmessage⟩
    · exact absurd hx List.not_mem_nil
  | _ => exact absurd hx List.not_mem_nil

/-- A request that comes to a session which is over is told so, even if that is still in place. -/
theorem join_of_isOver {s : Server σ} {number : Nat} {visit : Visit}
    (hfound : s.arriving.find? (·.number = number) = some visit)
    (hover : s.isOver visit.session = true) :
    (s.step (.join number)).2 = [.answer number (.status Status.gone) true] := by
  obtain ⟨x, hx, hclosed⟩ := isOver_iff.1 hover
  have haction : s.action? (.join number) = some (visit.session, .join number) := by
    rw [action?, hfound]
    rfl
  rw [(step_reacts s (.join number)).2, remark_of_action? haction, List.append_nil, react, haction]
  dsimp only
  rw [show s.departed (s.departing? (.join number)) = s from rfl, act_of_some s _ _ hx,
    Session.step_join_of_not_isOpen _ _ _ _ hclosed]
  rfl

/-! ## The result -/

/-- **One live session at a time, with a clean end.**  Events led from `start` to `s` with these
effects and services of the sessions; anything may happen next. -/
structure Succession (start : Server σ) (events : List (Event σ)) (s : Server σ)
    (effects : List Effect) (services : List (Service σ)) : Prop where
  /-- The session in place is live, and no other. -/
  place : live effects = s.current.toList
  /-- As many are counted as are live. -/
  counted : s.gauge = (live effects).length
  /-- The connections of all others are shut down, and their targets were told so. -/
  others : ∀ (k : Nat) (x : Session σ), s.sessions[k]? = some x → s.current ≠ some k →
    x.phase = .shutDown ∧ start.HungUp events k
  /-- A session is opened only by a well-formed request that finds none in place. -/
  opened : ∀ event k, .opened k ∈ (s.step event).2 →
    s.current = none ∧ k = s.sessions.length ∧ ∃ number request device received,
      event = .arrive number request (some device) ∧ Received.ofMessage request = .ok received
  /-- If the target cannot be reached, the request is told so, and nothing else happens. -/
  failed : ∀ number request received, s.current = none →
    Received.ofMessage request = .ok received →
    s.step (.arrive number request none) = (s, [.answer number (.status Status.gone) true])
  /-- Otherwise it is given a session of its own that begins from nothing, and which is counted. -/
  fresh : ∀ number request received device, s.current = none →
    Received.ofMessage request = .ok received → ∀ next effects,
    s.step (.arrive number request (some device)) = (next, effects) →
      effects = [.opened s.sessions.length] ∧ next.current = some s.sessions.length ∧
      next.gauge = 1 ∧
      (∃ visit ∈ next.arriving, visit.number = number ∧ visit.session = s.sessions.length) ∧
      ∃ x, next.sessions = s.sessions ++ [x] ∧ x.Fresh device
  /-- What requesters take from a session bears the numbers from one on. -/
  numbered : ∀ k, (handouts k services).map (·.sequence) =
    List.range' 1 (handouts k services).length
  /-- The loop of a session ends once, and does not run from then on. -/
  ended : ∀ k, (endings k effects).length = (s.hasEnded k).toNat
  /-- Whatever ends it, those who are not served by the same event wait on until the queue is closed. -/
  ends : ∀ event k cause, .ended k cause ∈ (s.step event).2 → s.Ends k cause (s.step event)
  /-- It is ended by its target, by the time, and at the request of somebody. -/
  reasons : ∀ (k : Nat) (x : Session σ) event cause, s.sessions[k]? = some x →
    s.Reason k x event cause →
      (s.step event).1.queue k = s.queue k ∧ (s.step event).2 = [.ended k cause]
  /-- It is asked to close by a request, or by a payload that could not be passed on.  This stands.
  -/
  asked : ∀ (k : Nat) (x y : Session σ) event, s.sessions[k]? = some x →
    (s.step event).1.sessions[k]? = some y →
    (y.closing = true ↔ x.closing = true ∨ s.action? event = some (k, .close) ∨
      ∃ p, s.action? event = some (k, .forward p) ∧ (x.forwarder.forward p).1.isOk = false)
  /-- After the end of its loop its queue is closed, and with this it is over for requests: each one
  that waits at that point is told so, and those that came since the end of the loop are among
  them. -/
  released : ∀ (k : Nat) (x : Session σ), s.sessions[k]? = some x → x.phase = .ended →
    s.step (.release k) =
      ({ s with sessions := s.sessions.set k { x with phase := .closed, waiting := [] } },
        Server.released (s.queue k))
  /-- A request that comes to a session which is over is told so. -/
  late : ∀ number visit, s.arriving.find? (·.number = number) = some visit →
    s.isOver visit.session = true →
    (s.step (.join number)).2 = [.answer number (.status Status.gone) true]
  /-- Then the target is told that nothing more will come, if nobody writes. -/
  shut : ∀ (k : Nat) (x : Session σ), s.sessions[k]? = some x → x.phase = .closed →
    s.isWriting k = false →
    s.step (.shutDown k) = ({ s with sessions := s.sessions.set k x.hungUp }, [])
  /-- It is told so once. -/
  once : ∀ (k : Nat) (x : Session σ), s.sessions[k]? = some x → x.phase = .shutDown →
    s.step (.shutDown k) = (s, [])
  /-- While somebody writes this has to wait. -/
  waits : ∀ k, s.isWriting k = true → s.step (.shutDown k) = (s, [])
  /-- It is one request that writes, and nobody does any more once its payload was passed on, or its
  requester went away. -/
  freed : ∀ visit ∈ s.forwarding, visit.writing = true → ∀ event, Frees visit.number event →
    (s.step event).1.isWriting visit.session = false
  /-- A session leaves its place only after its connection was shut down, and is counted out by
  this. -/
  cleared : ∀ event k, .cleared k ∈ (s.step event).2 →
    event = .clear k ∧ s.current = some k ∧ (∃ x, s.sessions[k]? = some x ∧ x.phase = .shutDown) ∧
      (s.step event).1.current = none ∧ (s.step event).1.gauge = s.gauge - 1
  /-- No other session is put out of its place. -/
  kept : ∀ k, s.current ≠ some k → s.step (.clear k) = (s, [])
  /-- Once a session that has ended took its last steps, it has left, its target was told, and it
  was counted out once, whatever happened in between.  It takes the one in the middle when nobody
  writes. -/
  left : ∀ k before after, s.hasEnded k = true → .release k ∈ before →
    (s.run before).1.isWriting k = false → .clear k ∈ after →
    ∀ later, before ++ .shutDown k :: after = later →
      (clearances (effects ++ (s.run later).2)).count k = 1 ∧ (s.run later).1.current ≠ some k ∧
      start.HungUp (events ++ later) k

/-- **Sessions of a server follow one another**, in every run: requests of any kind, requesters who
go away, what the targets send, their ends, failures and the time may come in any order. -/
theorem run_succession (timeouts : Timeouts) (events : List (Event σ)) :
    (ofTimeouts timeouts).Succession events ((ofTimeouts timeouts).run events).1
      ((ofTimeouts timeouts).run events).2 ((ofTimeouts timeouts).log events) := by
  have htallies := (tallies_ofTimeouts timeouts).run events
  rw [List.nil_append] at htallies
  have hnone : ∀ k, (ofTimeouts timeouts : Server σ).sessions[k]? = none := fun k =>
    List.getElem?_nil
  have htold : ∀ {events : List (Event σ)} {k : Nat} {y : Session σ},
      ((ofTimeouts timeouts).run events).1.sessions[k]? = some y → y.phase = .shutDown →
      (ofTimeouts timeouts).HungUp events k := fun hy hshut =>
    hungUp_of_shutDown (fun x hx => absurd (hx.symm.trans (hnone _)) (Option.some_ne_none _)) hy
      hshut
  refine
    { place := htallies.live_eq
      counted := htallies.gauge_eq
      others := fun k x hx hplace => ?_
      opened := fun event k => opened_step
      failed := fun number request received hfree hmessage =>
        arrive_of_unreachable hfree hmessage number
      fresh := fun number request received device hfree hmessage next effects hstep => ?_
      numbered := fun k => ?_
      ended := fun k => ended_run (ofTimeouts timeouts) events k
      ends := fun event k cause => ends_of_mem
      reasons := fun k x event cause hx => step_of_reason hx
      asked := fun k x y event hx hy => asked_step hx hy
      released := fun k x => step_release
      late := fun number visit => join_of_isOver
      shut := fun k x => step_shutDown
      once := fun k x => step_shutDown_of_shutDown
      waits := fun k => step_shutDown_of_isWriting
      freed := fun visit hvisit hwrites event hfrees =>
        ((exclusive_ofTimeouts timeouts).run events).freed hvisit hwrites hfrees
      cleared := fun event k hcleared => ?_
      kept := fun k hplace => ?_
      left := fun k before after hended hrelease hfree hclear later hlater => ?_ }
  · have hshut := htallies.single.others k x hx hplace
    exact ⟨hshut, htold hx hshut⟩
  · have hnext := htallies.step (.arrive number request (some device))
    have hgauge := hnext.gauge_eq
    rw [hnext.live_eq, hstep] at hgauge
    rw [step, arrive_of_free hfree hmessage] at hstep
    obtain ⟨rfl, rfl⟩ := Prod.mk.inj hstep
    refine ⟨rfl, rfl, hgauge, ⟨⟨number, _, isDisconnect request.headers, received, false⟩, ?_, rfl, rfl⟩,
      _, rfl, rfl, rfl, rfl, rfl, rfl, rfl⟩
    exact List.mem_append_right _ (List.mem_singleton_self _)
  · have hnumbers : (ofTimeouts timeouts : Server σ).Numbers k [] :=
      ⟨fun _ => rfl, fun _ hx => absurd (hx.symm.trans (hnone k)) (Option.some_ne_none _)⟩
    exact (hnumbers.run events).numbered
  · obtain ⟨rfl, hplace, hshut, hstep⟩ := cleared_step hcleared
    refine ⟨rfl, hplace, hshut, ?_, ?_⟩
    · rw [hstep]
    · rw [hstep]
      rfl
  · rw [step, clear]
    split
    · rfl
    · exact if_neg fun h => hplace h.2
  · obtain ⟨hcount, hplace, y, hy, hshut⟩ :=
      left_run htallies hended hrelease hfree hclear hlater
    have hrun := run_append (ofTimeouts timeouts) events later
    refine ⟨hcount, hplace, htold (y := y) ?_ hshut⟩
    rw [hrun]
    exact hy

/-- A target has nothing more to say while it is slow to take a payload.  Who waits is told that the
session is over, one who came since the end included, but the session keeps its place.  The target
is told when it has taken the payload, and the next session begins from nothing. -/
theorem run_succession_behind_write :
    let payload : Message := Payload.assignTo ⟨1, [97], by decide, by decide⟩ {}
    let ending : List (Event FaultySink) :=
      [.arrive 1 payload (some {}), .join 1, .write 1, .read 0 (.error .targetClosed),
        .arrive 2 {} none, .join 2, .release 0, .shutDown 0, .clear 0]
    let events : List (Event FaultySink) :=
      ending ++ [.forward 1, .shutDown 0, .shutDown 0, .clear 0, .arrive 3 {} (some {}), .join 3]
    let before := (ofTimeouts {}).run ending
    let after := (ofTimeouts {}).run events
    (ofTimeouts {}).Succession events after.1 after.2 ((ofTimeouts {}).log events) ∧
      answersTo 1 before.2 = [(.status Status.gone, true)] ∧
      answersTo 2 before.2 = [(.status Status.gone, true)] ∧
      before.1.current = some 0 ∧ before.1.isWriting 0 = true ∧
      before.1.sessions.map (·.forwarder.outlet.device.shutdowns) = [0] ∧
      after.1.current = some 1 ∧ after.1.gauge = 1 ∧
      after.1.sessions.map (·.forwarder.outlet.device.shutdowns) = [1, 0] ∧
      after.1.sessions.map (·.forwarder.outlet.written) = [[97], []] := by
  intro payload ending events before after
  exact ⟨run_succession {} events, by decide +kernel, by decide +kernel, by decide +kernel,
    by decide +kernel, by decide +kernel, by decide +kernel, by decide +kernel, by decide +kernel,
    by decide +kernel⟩

end Server
end Tunnel
end PollTunnel
