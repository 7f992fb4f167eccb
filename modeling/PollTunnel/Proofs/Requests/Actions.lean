import PollTunnel.Proofs.Requests.Session
import PollTunnel.Tunnel.Server

/-!
# What the server has its sessions do

A server event reaches its sessions in two ways only.  A requester may go away, which every session
hears of (`Server.departing?`), and one session may be made to do something (`Server.action?`).
`Server.react` is the two together, and `sessions_step` and `effects_step` say that an event does
this to the sessions and nothing else, apart from a session that it may open.

So every session has a run of its own: whatever the server goes through, each of its sessions only
ever takes steps (`exists_run_of_getElem?`), and what is kept by the steps of a session holds for
all sessions of a server that ran (`forall_sessions_run`).
-/

set_option autoImplicit false

namespace PollTunnel
namespace Tunnel

namespace Session

variable {σ : Type} [Sink σ]

@[simp] theorem run_nil (timeouts : Timeouts) (s : Session σ) : s.run timeouts [] = (s, []) := rfl

theorem run_cons (timeouts : Timeouts) (s : Session σ) (e : Nat × Event σ)
    (es : List (Nat × Event σ)) :
    (s.run timeouts (e :: es)).1 = ((s.step timeouts e.1 e.2).1.run timeouts es).1 := rfl

theorem run_append (timeouts : Timeouts) (s : Session σ) (es fs : List (Nat × Event σ)) :
    (s.run timeouts (es ++ fs)).1 = ((s.run timeouts es).1.run timeouts fs).1 := by
  induction es generalizing s with
  | nil => rfl
  | cons e es ih => exact ih _

/-- What every step keeps, a run keeps. -/
theorem run_induction {timeouts : Timeouts} {P : Session σ → Prop}
    (hstep : ∀ x now event, P x → P (x.step timeouts now event).1) {s : Session σ} (h : P s)
    (es : List (Nat × Event σ)) : P (s.run timeouts es).1 := by
  induction es generalizing s with
  | nil => exact h
  | cons e es ih => exact ih (hstep s e.1 e.2 h)

end Session

namespace Server

variable {σ : Type}

/-! ## One session acts -/

section Act

variable [Sink σ] (s : Server σ) (k : Nat) (event : Session.Event σ)

theorem act_of_none (h : s.sessions[k]? = none) : s.act k event = (s, []) := by
  rw [act, h]

theorem act_of_some {x : Session σ} (h : s.sessions[k]? = some x) :
    s.act k event =
      ({ s with
          sessions := s.sessions.set k (x.step s.timeouts s.clock event).1
          metrics := count s.metrics (x.step s.timeouts s.clock event).2 },
        (x.step s.timeouts s.clock event).2.filterMap (effectOf? k)) := by
  rw [act, h]

theorem sessions_act :
    (s.act k event).1.sessions =
      s.sessions.modify k fun x => (x.step s.timeouts s.clock event).1 := by
  cases h : s.sessions[k]? with
  | none =>
    rw [act_of_none s k event h, List.modify_eq_self (List.getElem?_eq_none_iff.1 h)]
  | some x =>
    rw [act_of_some s k event h]
    refine List.ext_getElem? fun j => ?_
    rw [List.getElem?_set, List.getElem?_modify]
    split
    · rename_i hj
      obtain ⟨hk, -⟩ := List.getElem?_eq_some_iff.1 h
      subst hj
      rw [if_pos hk, h]
      rfl
    · exact (id_map _).symm

@[simp] theorem arriving_act : (s.act k event).1.arriving = s.arriving := by
  rw [act]; split <;> rfl

@[simp] theorem forwarding_act : (s.act k event).1.forwarding = s.forwarding := by
  rw [act]; split <;> rfl

@[simp] theorem current_act : (s.act k event).1.current = s.current := by
  rw [act]; split <;> rfl

@[simp] theorem timeouts_act : (s.act k event).1.timeouts = s.timeouts := by
  rw [act]; split <;> rfl

@[simp] theorem clock_act : (s.act k event).1.clock = s.clock := by
  rw [act]; split <;> rfl

@[simp] theorem length_sessions_act : (s.act k event).1.sessions.length = s.sessions.length := by
  rw [sessions_act, List.length_modify]

/-- The requests on their way have no part in what a session does. -/
theorem act_visits (arriving forwarding : List Visit) :
    { s with arriving, forwarding }.act k event =
      ({ (s.act k event).1 with arriving, forwarding }, (s.act k event).2) := by
  rw [act, act]
  cases s.sessions[k]? <;> rfl

end Act

/-! ## What an event amounts to -/

/-- What an event has a session do, and which one. -/
def action? (s : Server σ) : Event σ → Option (Nat × Session.Event σ)
  | .join number =>
    (s.arriving.find? (·.number = number)).map fun visit => (visit.session, .join number)
  | .disconnect number =>
    (s.forwarding.find? fun visit => visit.number = number ∧ visit.disconnect = true).map
      fun visit => (visit.session, .close)
  | .forward number =>
    (s.forwarding? number).bind fun visit =>
      match visit.received with
      | .payload p => some (visit.session, .forward p)
      | .noPayload => none
  | .abandon number =>
    (s.forwarding? number).bind fun visit =>
      match visit.received with
      | .payload p => some (visit.session, .abandon p)
      | .noPayload => none
  | .read session outcome => some (session, .read outcome)
  | .wake session => some (session, .wake)
  | .notice session => some (session, .notice)
  | .release session => some (session, .release)
  | .shutDown session => if s.isWriting session then none else some (session, .shutDown)
  | .device session device => some (session, .device device)
  | .arrive _ _ _ | .write _ | .leave _ | .clear _ | .pass _ => none

/-- A request passes its payload on when it was let in, need not have its session closed before, and
has its turn. -/
theorem of_forwarding? {s : Server σ} {number : Nat} {visit : Visit}
    (h : s.forwarding? number = some visit) :
    visit ∈ s.forwarding ∧ visit.number = number ∧ visit.disconnect = false ∧
      s.hasTurn visit = true :=
  ⟨List.mem_of_find?_eq_some h, by simpa using List.find?_some h⟩

/-- The requester who goes away by an event. -/
def departing? (s : Server σ) : Event σ → Option Nat
  | .leave number => some number
  | .abandon number => (s.forwarding? number).map fun _ => number
  | _ => none

/-- The session that an event opens. -/
def opening (s : Server σ) : Event σ → List (Session σ)
  | .arrive _ request target =>
    match Received.ofMessage request, s.current, target with
    | .ok _, none, some device => [.start s.timeouts s.clock device]
    | _, _, _ => []
  | _ => []

/-- The request that an event gives a session. -/
def visiting (s : Server σ) : Event σ → List Visit
  | .arrive number request target =>
    match Received.ofMessage request, s.current, target with
    | .ok received, some session, _ =>
      [⟨number, session, isDisconnect request.headers, received, false⟩]
    | .ok received, none, some _ =>
      [⟨number, s.sessions.length, isDisconnect request.headers, received, false⟩]
    | _, _, _ => []
  | _ => []

/-- The request that stops being on its way to a queue by an event. -/
def ceasing? (s : Server σ) : Event σ → Option Nat
  | .join number => some number
  | event => s.departing? event

/-- The visits that are left when a request is taken out, if one is. -/
def remaining (visits : List Visit) : Option Nat → List Visit
  | some number => without visits number
  | none => visits

/-- What an event causes beside what the sessions do. -/
def remark (s : Server σ) : Event σ → List Effect
  | .arrive number request target => (s.arrive number request target).2
  | .clear session => (s.clear session).2
  | _ => []

/-- The server after a requester went away, if one did. -/
def departed (s : Server σ) : Option Nat → Server σ
  | some number => s.leave number
  | none => s

@[simp] theorem timeouts_departed (s : Server σ) (number : Option Nat) :
    (s.departed number).timeouts = s.timeouts := by
  cases number <;> rfl

@[simp] theorem clock_departed (s : Server σ) (number : Option Nat) :
    (s.departed number).clock = s.clock := by
  cases number <;> rfl

theorem length_sessions_departed (s : Server σ) (number : Option Nat) :
    (s.departed number).sessions.length = s.sessions.length := by
  cases number with
  | none => rfl
  | some number => exact List.length_map _

/-- What the sessions that there are do at an event. -/
def react [Sink σ] (s : Server σ) (event : Event σ) : Outcome σ :=
  match s.action? event with
  | some (session, action) => (s.departed (s.departing? event)).act session action
  | none => (s.departed (s.departing? event), [])

variable [Sink σ]

/-- An event leaves the sessions as they reacted, with the one that it opened, and causes what they
cause beside its own answers. -/
theorem step_reacts (s : Server σ) (event : Event σ) :
    (s.step event).1.sessions = (s.react event).1.sessions ++ s.opening event ∧
      (s.step event).2 = (s.react event).2 ++ s.remark event := by
  cases event with
  | arrive number request target =>
    simp only [step, arrive, react, action?, departing?, departed, opening, remark]
    cases Received.ofMessage request with
    | error e => simp
    | ok received => cases s.current <;> cases target <;> simp [openSession]
  | join number =>
    simp only [step, join, react, action?, departing?, departed, opening, remark, List.append_nil]
    cases s.arriving.find? (·.number = number) with
    | none => exact ⟨rfl, rfl⟩
    | some visit =>
      have h := act_visits s visit.session (.join number) (without s.arriving number) s.forwarding
      dsimp only [Option.map_some] at h ⊢
      rw [h]
      split <;> exact ⟨rfl, rfl⟩
  | disconnect number =>
    simp only [step, disconnect, react, action?, departing?, departed, opening, remark,
      List.append_nil]
    cases s.forwarding.find? fun visit => visit.number = number ∧ visit.disconnect = true with
    | none => exact ⟨rfl, rfl⟩
    | some visit =>
      have h := act_visits s visit.session .close s.arriving (changed .told s.forwarding visit)
      dsimp only [Option.map_some] at h ⊢
      rw [h]
      exact ⟨rfl, rfl⟩
  | forward number =>
    simp only [step, forward, react, action?, departing?, departed, opening, remark,
      List.append_nil]
    cases s.forwarding? number with
    | none => exact ⟨rfl, rfl⟩
    | some visit =>
      dsimp only [Option.bind_some]
      cases visit.received with
      | noPayload => exact ⟨rfl, rfl⟩
      | payload p =>
        have h := act_visits s visit.session (.forward p) s.arriving (without s.forwarding number)
        dsimp only at h ⊢
        rw [h]
        exact ⟨rfl, rfl⟩
  | abandon number =>
    simp only [step, abandon, react, action?, departing?, departed, opening, remark,
      List.append_nil]
    cases s.forwarding? number with
    | none => exact ⟨rfl, rfl⟩
    | some visit =>
      dsimp only [Option.bind_some, Option.map_some]
      cases visit.received <;> exact ⟨rfl, rfl⟩
  | write number =>
    simp only [step, write, react, action?, departing?, departed, opening, remark, List.append_nil,
      and_true]
    split
    · rfl
    · split <;> rfl
  | shutDown k =>
    simp only [step, react, action?, departing?, departed, opening, remark, List.append_nil]
    split <;> exact ⟨rfl, rfl⟩
  | clear k =>
    simp only [step, clear, react, action?, departing?, departed, opening, remark,
      List.append_nil, List.nil_append, and_true]
    split
    · rfl
    · split <;> rfl
  | _ => simp [step, react, action?, departing?, departed, opening, remark]

theorem without_of_find?_eq_none {visits : List Visit} {number : Nat}
    (h : visits.find? (·.number = number) = none) : without visits number = visits := by
  rw [without, List.filter_eq_self]
  intro visit hvisit
  simpa using List.find?_eq_none.1 h visit hvisit

/-- The requests on their way to a queue after an event. -/
theorem arriving_step (s : Server σ) (event : Event σ) :
    (s.step event).1.arriving =
      remaining s.arriving (s.ceasing? event) ++ s.visiting event := by
  cases event with
  | arrive number request target =>
    simp only [step, arrive, ceasing?, departing?, remaining, visiting]
    cases Received.ofMessage request with
    | error e => simp
    | ok received => cases s.current <;> cases target <;> simp [openSession]
  | join number =>
    simp only [step, join, ceasing?, remaining, visiting, List.append_nil]
    split
    · rename_i hnone
      exact (without_of_find?_eq_none hnone).symm
    · split <;> exact arriving_act _ _ _
  | disconnect number =>
    simp only [step, disconnect, ceasing?, departing?, remaining, visiting, List.append_nil]
    split
    · rfl
    · exact arriving_act _ _ _
  | forward number =>
    simp only [step, forward, ceasing?, departing?, remaining, visiting, List.append_nil]
    split
    · rfl
    · split
      · exact arriving_act _ _ _
      · rfl
  | leave number => exact (List.append_nil _).symm
  | abandon number =>
    simp only [step, abandon, ceasing?, departing?, visiting, List.append_nil]
    cases s.forwarding? number with
    | none => rfl
    | some visit =>
      dsimp only [Option.map_some, remaining]
      split
      · exact arriving_act _ _ _
      · rfl
  | write number =>
    simp only [step, write, ceasing?, departing?, remaining, visiting, List.append_nil]
    split
    · rfl
    · split <;> rfl
  | shutDown k =>
    simp only [step, ceasing?, departing?, remaining, visiting, List.append_nil]
    split
    · rfl
    · exact arriving_act _ _ _
  | clear k =>
    simp only [step, clear, ceasing?, departing?, remaining, visiting, List.append_nil]
    split
    · rfl
    · split <;> rfl
  | _ => simp [step, ceasing?, departing?, remaining, visiting]

/-- The request that an event lets in. -/
def entering (s : Server σ) : Event σ → List Visit
  | .join number =>
    match s.arriving.find? (·.number = number) with
    | some visit => if s.isOpen visit.session then [visit] else []
    | none => []
  | _ => []

/-- The request with which a server is done after an event. -/
def finishing? (s : Server σ) : Event σ → Option Nat
  | .forward number => (s.forwarding? number).map fun _ => number
  | event => s.departing? event

/-- What happens at an event to a request that was let in: its session is told to close, or it
begins to write its payload. -/
def changing? (s : Server σ) : Event σ → Option (Visit × (Visit → Visit))
  | .disconnect number =>
    (s.forwarding.find? fun visit => visit.number = number ∧ visit.disconnect = true).map
      fun visit => (visit, .told)
  | .write number =>
    (s.forwarding? number).bind fun visit =>
      match visit.received with
      | .payload _ => some (visit, .begun)
      | .noPayload => none
  | _ => none

/-- The visits after something happened to one of them, if it did. -/
def changedBy (visits : List Visit) : Option (Visit × (Visit → Visit)) → List Visit
  | some (visit, change) => changed change visits visit
  | none => visits

omit [Sink σ] in
/-- Whatever happens to a request, it keeps its number, its session and what it brought. -/
theorem kept_of_changing? {s : Server σ} {event : Event σ} {changing : Visit}
    {change : Visit → Visit} (h : s.changing? event = some (changing, change)) (visit : Visit) :
    (change visit).number = visit.number ∧ (change visit).session = visit.session ∧
      (change visit).received = visit.received := by
  cases event with
  | disconnect m =>
    obtain ⟨found, -, heq⟩ := Option.map_eq_some_iff.1 h
    obtain ⟨-, rfl⟩ := Prod.mk.inj heq
    exact ⟨rfl, rfl, rfl⟩
  | write m =>
    obtain ⟨found, -, heq⟩ := Option.bind_eq_some_iff.1 h
    cases hreceived : found.received with
    | noPayload => rw [hreceived] at heq; cases heq
    | payload p =>
      rw [hreceived] at heq
      obtain ⟨-, rfl⟩ := Prod.mk.inj (Option.some.inj heq)
      exact ⟨rfl, rfl, rfl⟩
  | _ => cases h

omit [Sink σ] in
/-- A session is shut down when nobody writes on its connection. -/
theorem action?_shutDown {s : Server σ} {j k : Nat} {action : Session.Event σ}
    (h : s.action? (.shutDown j) = some (k, action)) :
    s.isWriting j = false ∧ j = k ∧ action = .shutDown := by
  rw [action?] at h
  split at h
  · cases h
  · rename_i hfree
    obtain ⟨rfl, rfl⟩ := Prod.mk.inj (Option.some.inj h)
    exact ⟨by simpa using hfree, rfl, rfl⟩

/-- The requests that were let in, after an event. -/
theorem forwarding_step (s : Server σ) (event : Event σ) :
    (s.step event).1.forwarding =
      changedBy (remaining s.forwarding (s.finishing? event)) (s.changing? event) ++
        s.entering event := by
  cases event with
  | arrive number request target =>
    simp only [step, arrive, finishing?, departing?, remaining, changing?, changedBy, entering,
      List.append_nil]
    cases Received.ofMessage request with
    | error e => rfl
    | ok received => cases s.current <;> cases target <;> rfl
  | join number =>
    simp only [step, join, finishing?, departing?, remaining, changing?, changedBy, entering]
    cases s.arriving.find? (·.number = number) with
    | none => exact (List.append_nil _).symm
    | some visit =>
      dsimp only
      split
      · rw [forwarding_act]
      · rw [forwarding_act, List.append_nil]
  | disconnect number =>
    simp only [step, disconnect, finishing?, departing?, remaining, changing?, entering,
      List.append_nil]
    cases s.forwarding.find? fun visit => visit.number = number ∧ visit.disconnect = true with
    | none => rfl
    | some visit => exact forwarding_act _ _ _
  | write number =>
    simp only [step, write, finishing?, departing?, remaining, changing?, entering,
      List.append_nil]
    cases s.forwarding? number with
    | none => rfl
    | some visit =>
      dsimp only [Option.bind_some]
      cases visit.received <;> rfl
  | forward number =>
    simp only [step, forward, finishing?, changing?, changedBy, entering, List.append_nil]
    cases s.forwarding? number with
    | none => rfl
    | some visit =>
      dsimp only [Option.map_some, remaining]
      split
      · exact forwarding_act _ _ _
      · rfl
  | leave number => exact (List.append_nil _).symm
  | abandon number =>
    simp only [step, abandon, finishing?, departing?, changing?, changedBy, entering, List.append_nil]
    cases s.forwarding? number with
    | none => rfl
    | some visit =>
      dsimp only [Option.map_some, remaining]
      split
      · exact forwarding_act _ _ _
      · rfl
  | shutDown k =>
    simp only [step, finishing?, departing?, remaining, changing?, changedBy, entering,
      List.append_nil]
    split
    · rfl
    · exact forwarding_act _ _ _
  | clear k =>
    simp only [step, clear, finishing?, departing?, remaining, changing?, changedBy, entering,
      List.append_nil]
    split
    · rfl
    · split <;> rfl
  | _ => simp [step, finishing?, departing?, remaining, changing?, changedBy, entering]

/-! ## Every session has a run of its own -/

/-- What an event means to one session. -/
def own (s : Server σ) (event : Event σ) (k : Nat) : List (Session.Event σ) :=
  (s.departing? event).toList.map .leave ++
    match s.action? event with
    | some (session, action) => if session = k then [action] else []
    | none => []

/-- A session hears of a requester who goes away. -/
theorem getElem?_departed (s : Server σ) (number : Option Nat) (k : Nat) :
    (s.departed number).sessions[k]? = s.sessions[k]?.map fun x =>
      (x.run s.timeouts ((number.toList.map Session.Event.leave).map (s.clock, ·))).1 := by
  cases number with
  | none => exact Option.map_id'.symm
  | some number => exact List.getElem?_map

theorem getElem?_react (s : Server σ) (event : Event σ) (k : Nat) :
    (s.react event).1.sessions[k]? = s.sessions[k]?.map fun x =>
      (x.run s.timeouts ((s.own event k).map (s.clock, ·))).1 := by
  rw [react, own]
  cases s.action? event with
  | none =>
    rw [getElem?_departed]
    simp
  | some action =>
    obtain ⟨session, action⟩ := action
    dsimp only
    rw [sessions_act, List.getElem?_modify, getElem?_departed]
    by_cases hk : session = k
    · simp [hk, Session.run_append, Session.run_cons, Function.comp_def]
    · simp [hk, Function.comp_def]

/-- A session that there is takes steps of its own at every event. -/
theorem getElem?_step {s : Server σ} {k : Nat} {x : Session σ} (h : s.sessions[k]? = some x)
    (event : Event σ) :
    (s.step event).1.sessions[k]? =
      some (x.run s.timeouts ((s.own event k).map (s.clock, ·))).1 := by
  have hreact := getElem?_react s event k
  rw [h, Option.map_some] at hreact
  rw [(step_reacts s event).1,
    List.getElem?_append_left (List.getElem?_eq_some_iff.1 hreact).1, hreact]

omit [Sink σ] in
/-- Only the queue of a session changes when a requester goes away. -/
theorem exists_waiting_departed {s : Server σ} {k : Nat} {x : Session σ}
    (h : s.sessions[k]? = some x) (number : Option Nat) :
    ∃ q, (s.departed number).sessions[k]? = some { x with waiting := q } := by
  cases number with
  | none => exact ⟨x.waiting, h⟩
  | some number =>
    refine ⟨x.waiting.leave number, ?_⟩
    rw [departed, leave, List.getElem?_map, h]
    rfl

/-- A session acts at an event, or at most a requester goes away. -/
theorem session_step_cases {s : Server σ} {k : Nat} {x : Session σ} (h : s.sessions[k]? = some x)
    (event : Event σ) :
    ∃ q, (s.departed (s.departing? event)).sessions[k]? = some { x with waiting := q } ∧
      (((∀ action, s.action? event ≠ some (k, action)) ∧
          (s.step event).1.sessions[k]? = some { x with waiting := q }) ∨
        ∃ action, s.action? event = some (k, action) ∧ (s.step event).1.sessions[k]? =
          some (Session.step s.timeouts s.clock { x with waiting := q } action).1) := by
  obtain ⟨q, hq⟩ := exists_waiting_departed h (s.departing? event)
  refine ⟨q, hq, ?_⟩
  have hreact : (s.step event).1.sessions[k]? = (s.react event).1.sessions[k]? := by
    have hlt : k < (s.react event).1.sessions.length := by
      have := getElem?_react s event k
      rw [h] at this
      exact (List.getElem?_eq_some_iff.1 this).1
    rw [(step_reacts s event).1, List.getElem?_append_left hlt]
  rw [hreact, react]
  cases haction : s.action? event with
  | none => exact Or.inl ⟨nofun, hq⟩
  | some action =>
    obtain ⟨j, action⟩ := action
    dsimp only
    rw [sessions_act, List.getElem?_modify, hq, timeouts_departed, clock_departed]
    by_cases hj : j = k
    · subst hj
      exact Or.inr ⟨action, rfl, by simp⟩
    · exact Or.inl ⟨fun other heq => hj (Prod.mk.inj (Option.some.inj heq)).1, by simp [hj]⟩

/-- What there is after an event was there before, or starts now. -/
theorem mem_sessions_step {s : Server σ} {event : Event σ} {y : Session σ}
    (h : y ∈ (s.step event).1.sessions) :
    (∃ x ∈ s.sessions, ∃ es, y = (x.run s.timeouts es).1) ∨
      ∃ device, y = .start s.timeouts s.clock device := by
  rw [(step_reacts s event).1, List.mem_append] at h
  rcases h with h | h
  · obtain ⟨k, hk⟩ := List.mem_iff_getElem?.1 h
    rw [getElem?_react, Option.map_eq_some_iff] at hk
    obtain ⟨x, hx, rfl⟩ := hk
    exact Or.inl ⟨x, List.mem_of_getElem? hx, _, rfl⟩
  · cases event with
    | arrive number request target =>
      simp only [opening] at h
      split at h
      · exact Or.inr ⟨_, List.mem_singleton.1 h⟩
      · exact absurd h List.not_mem_nil
    | _ => exact absurd h List.not_mem_nil

@[simp] theorem timeouts_step (s : Server σ) (event : Event σ) :
    (s.step event).1.timeouts = s.timeouts := by
  cases event with
  | arrive number request target =>
    simp only [step, arrive]
    cases Received.ofMessage request with
    | error e => rfl
    | ok received => cases s.current <;> cases target <;> rfl
  | join number =>
    simp only [step, join]
    split
    · rfl
    · split <;> exact timeouts_act _ _ _
  | disconnect number =>
    simp only [step, disconnect]
    split
    · rfl
    · exact timeouts_act _ _ _
  | forward number =>
    simp only [step, forward]
    split
    · rfl
    · split
      · exact timeouts_act _ _ _
      · rfl
  | abandon number =>
    simp only [step, abandon]
    split
    · rfl
    · split
      · exact timeouts_act _ _ _
      · rfl
  | write number =>
    simp only [step, write]
    split
    · rfl
    · split <;> rfl
  | shutDown k =>
    simp only [step]
    split
    · rfl
    · exact timeouts_act _ _ _
  | clear k =>
    simp only [step, clear]
    split
    · rfl
    · split <;> rfl
  | leave | pass => rfl
  | _ => exact timeouts_act _ _ _

theorem run_cons (s : Server σ) (event : Event σ) (rest : List (Event σ)) :
    s.run (event :: rest) =
      (((s.step event).1.run rest).1, (s.step event).2 ++ ((s.step event).1.run rest).2) := rfl

theorem run_append (s : Server σ) (before after : List (Event σ)) :
    s.run (before ++ after) =
      (((s.run before).1.run after).1, (s.run before).2 ++ ((s.run before).1.run after).2) := by
  induction before generalizing s with
  | nil => rfl
  | cons event before ih => rw [List.cons_append, run_cons, ih, run_cons, List.append_assoc]

/-- **Every session has a run of its own**, whatever the server goes through. -/
theorem exists_run_of_getElem? {s : Server σ} {k : Nat} {x : Session σ}
    (h : s.sessions[k]? = some x) (events : List (Event σ)) :
    ∃ es, (s.run events).1.sessions[k]? = some (x.run s.timeouts es).1 := by
  induction events generalizing s x with
  | nil => exact ⟨[], h⟩
  | cons event rest ih =>
    obtain ⟨es, hes⟩ := ih (getElem?_step h event)
    refine ⟨(s.own event k).map (s.clock, ·) ++ es, ?_⟩
    rw [Session.run_append, run_cons, hes, timeouts_step]

/-- What holds of a fresh session and is kept by its steps holds of every session. -/
theorem forall_sessions_step {s : Server σ} {P : Session σ → Prop}
    (hstart : ∀ now device, P (.start s.timeouts now device))
    (hstep : ∀ x now event, P x → P (x.step s.timeouts now event).1)
    (h : ∀ x ∈ s.sessions, P x) (event : Event σ) : ∀ x ∈ (s.step event).1.sessions, P x := by
  intro y hy
  rcases mem_sessions_step hy with ⟨x, hx, es, rfl⟩ | ⟨device, rfl⟩
  · exact Session.run_induction hstep (h x hx) es
  · exact hstart _ _

theorem forall_sessions_run {s : Server σ} {P : Session σ → Prop}
    (hstart : ∀ now device, P (.start s.timeouts now device))
    (hstep : ∀ x now event, P x → P (x.step s.timeouts now event).1)
    (h : ∀ x ∈ s.sessions, P x) (events : List (Event σ)) :
    ∀ x ∈ (s.run events).1.sessions, P x := by
  induction events generalizing s with
  | nil => exact h
  | cons event rest ih =>
    rw [run_cons]
    exact ih (by simpa using hstart) (by simpa using hstep)
      (forall_sessions_step hstart hstep h event)

/-! ## The session that requests are given to -/

/-- The place for a session stays as it is, is left by a session that is shut down, or is taken by a
new one. -/
theorem current_step_cases (s : Server σ) (event : Event σ) :
    ((s.step event).1.current = s.current ∧ s.opening event = []) ∨
    (∃ k, event = .clear k ∧ s.current = some k ∧ (s.step event).1.current = none ∧
      (s.step event).2 = [.cleared k] ∧ s.opening event = []) ∨
    (s.current = none ∧ (s.step event).1.current = some s.sessions.length ∧
      (s.step event).2 = [.opened s.sessions.length] ∧
      ∃ device, s.opening event = [.start s.timeouts s.clock device]) := by
  cases event with
  | arrive number request target =>
    simp only [step, arrive, opening]
    cases Received.ofMessage request with
    | error e => exact Or.inl ⟨rfl, rfl⟩
    | ok received =>
      cases hcurrent : s.current with
      | some k => exact Or.inl ⟨rfl, by cases target <;> rfl⟩
      | none =>
        cases target with
        | none => exact Or.inl ⟨hcurrent, rfl⟩
        | some device => exact Or.inr (Or.inr ⟨rfl, rfl, rfl, device, rfl⟩)
  | join number =>
    refine Or.inl ⟨?_, rfl⟩
    simp only [step, join]
    split
    · rfl
    · split <;> exact current_act _ _ _
  | disconnect number =>
    refine Or.inl ⟨?_, rfl⟩
    simp only [step, disconnect]
    split
    · rfl
    · exact current_act _ _ _
  | forward number =>
    refine Or.inl ⟨?_, rfl⟩
    simp only [step, forward]
    split
    · rfl
    · split
      · exact current_act _ _ _
      · rfl
  | abandon number =>
    refine Or.inl ⟨?_, rfl⟩
    simp only [step, abandon]
    split
    · rfl
    · split
      · exact current_act _ _ _
      · rfl
  | write number =>
    refine Or.inl ⟨?_, rfl⟩
    simp only [step, write]
    split
    · rfl
    · split <;> rfl
  | shutDown k =>
    refine Or.inl ⟨?_, rfl⟩
    simp only [step]
    split
    · rfl
    · exact current_act _ _ _
  | clear k =>
    simp only [step, clear]
    split
    · exact Or.inl ⟨rfl, rfl⟩
    · split
      · rename_i h
        exact Or.inr (Or.inl ⟨k, rfl, h.2, rfl, rfl, rfl⟩)
      · exact Or.inl ⟨rfl, rfl⟩
  | leave | pass => exact Or.inl ⟨rfl, rfl⟩
  | _ => exact Or.inl ⟨current_act _ _ _, rfl⟩

omit [Sink σ] in
/-- A request is given the session that there is, or the one that it opens. -/
theorem session_of_mem_visiting {s : Server σ} {event : Event σ} {visit : Visit}
    (h : visit ∈ s.visiting event) :
    s.current = some visit.session ∨
      visit.session = s.sessions.length ∧
        ∃ device, s.opening event = [.start s.timeouts s.clock device] := by
  cases event with
  | arrive number request target =>
    simp only [visiting] at h
    simp only [opening]
    cases hreceived : Received.ofMessage request with
    | error e => rw [hreceived] at h; cases h
    | ok received =>
      rw [hreceived] at h
      cases hcurrent : s.current with
      | some k =>
        rw [hcurrent] at h
        obtain rfl := List.mem_singleton.1 h
        exact Or.inl rfl
      | none =>
        rw [hcurrent] at h
        cases target with
        | none => cases h
        | some device =>
          obtain rfl := List.mem_singleton.1 h
          exact Or.inr ⟨rfl, device, rfl⟩
  | _ => cases h

/-- Requests are only ever given sessions that there are. -/
structure Placed (s : Server σ) : Prop where
  current : ∀ k, s.current = some k → k < s.sessions.length
  arriving : ∀ visit ∈ s.arriving, visit.session < s.sessions.length

omit [Sink σ] in
theorem placed_ofTimeouts (timeouts : Timeouts) : (ofTimeouts timeouts : Server σ).Placed :=
  ⟨fun _ h => (Option.some_ne_none _ h.symm).elim, fun _ h => absurd h List.not_mem_nil⟩

theorem length_sessions_step (s : Server σ) (event : Event σ) :
    (s.step event).1.sessions.length = s.sessions.length + (s.opening event).length := by
  rw [(step_reacts s event).1, List.length_append, react]
  cases s.action? event with
  | none => rw [length_sessions_departed]
  | some action => rw [length_sessions_act, length_sessions_departed]

omit [Sink σ] in
theorem remaining_subset (visits : List Visit) (gone : Option Nat) :
    remaining visits gone ⊆ visits := by
  cases gone with
  | none => exact List.Subset.refl _
  | some number => exact List.filter_sublist.subset

theorem Placed.step {s : Server σ} (h : s.Placed) (event : Event σ) : (s.step event).1.Placed := by
  have hlength := length_sessions_step s event
  constructor
  · intro k hk
    rcases current_step_cases s event with ⟨hcurrent, -⟩ | ⟨_, -, -, hcurrent, -⟩ |
      ⟨-, hcurrent, -, device, hopening⟩
    · have := h.current k (hcurrent ▸ hk)
      omega
    · rw [hcurrent] at hk
      cases hk
    · rw [hcurrent] at hk
      cases hk
      rw [hlength, hopening]
      exact Nat.lt_succ_self _
  · intro visit hvisit
    rw [arriving_step, List.mem_append] at hvisit
    rcases hvisit with hvisit | hvisit
    · have := h.arriving visit (remaining_subset _ _ hvisit)
      omega
    · rcases session_of_mem_visiting hvisit with hcurrent | ⟨hsession, device, hopening⟩
      · have := h.current _ hcurrent
        omega
      · rw [hlength, hopening, hsession]
        exact Nat.lt_succ_self _

theorem Placed.run {s : Server σ} (h : s.Placed) (events : List (Event σ)) :
    (s.run events).1.Placed := by
  induction events generalizing s with
  | nil => exact h
  | cons event rest ih => exact ih (h.step event)

end Server
end Tunnel
end PollTunnel
