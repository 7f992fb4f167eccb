import PollTunnel.Proofs.Clients.Slots
import PollTunnel.Tunnel.Client

/-!
# Local sockets take turns

A client has one slot.  An accept call takes it before it takes a socket from the line, and it comes
back when the task of the socket ends, after everything else: by then every listener was told, and
the socket is off the count.  So a client has one task or none (`Turn`), and each of the task's
steps is kept apart from those of the next by the slot (`InTurn.free`).  The client does not look
whether there is a task; `InTurn.free` reads this off the conservation of slots.

While a task tells one listener after another, some of them know more than the others.
`Stage.heard` says of each which socket it takes to be there, and `InTurn` that this goes on from
what it was told before (`Alternates`).

Between any two steps sockets may connect, the accept call may fail, and the client may be stopped.
`OneByOne` is what listeners, the counter and sockets in line can rely on all the same.
-/

set_option autoImplicit false

namespace PollTunnel
namespace Tunnel
namespace Client

variable {σ : Type}

/-! ## What listeners are told -/

/-- A socket that is served, as listeners know it. -/
structure Visit where
  connection : ConnectionId
  peer : SocketAddress
  deriving DecidableEq

/-- What a listener is told. -/
inductive Notice where
  | opened (visit : Visit)
  | closed (visit : Visit)
  deriving DecidableEq

/-- What an effect is for one of the listeners. -/
def Effect.notice? (k : Nat) : Effect → Option Notice
  | .opened listener connection peer =>
    if listener = k then some (.opened ⟨connection, peer⟩) else none
  | .closed listener connection peer =>
    if listener = k then some (.closed ⟨connection, peer⟩) else none
  | .begun _ _ | .ended _ _ | .channel _ _ => none

/-- What one of the listeners sees, in order. -/
def seenBy (k : Nat) (effects : List Effect) : List Notice := effects.filterMap (Effect.notice? k)

/-- The visits that have begun. -/
def openings (past : List Notice) : List Visit :=
  past.filterMap fun
    | .opened visit => some visit
    | .closed _ => none

/-- The visits that have ended. -/
def closings (past : List Notice) : List Visit :=
  past.filterMap fun
    | .opened _ => none
    | .closed visit => some visit

/-- Each visit ends before the next one begins, and has a larger number than those before it.  All
numbers lie below `next`, and `current` is the visit that has not ended. -/
inductive Alternates : Nat → List Notice → Option Visit → Prop where
  | silent {next : Nat} : Alternates next [] none
  | opened {before next : Nat} {past : List Notice} {visit : Visit}
      (h : Alternates before past none) (hlarger : before ≤ visit.connection.number)
      (hbelow : visit.connection.number < next) :
      Alternates next (past ++ [.opened visit]) (some visit)
  | closed {next : Nat} {past : List Notice} {visit : Visit}
      (h : Alternates next past (some visit)) :
      Alternates next (past ++ [.closed visit]) none

theorem Alternates.mono {next later : Nat} {past : List Notice} {current : Option Visit}
    (h : Alternates next past current) (hle : next ≤ later) : Alternates later past current := by
  induction h with
  | silent => exact .silent
  | opened h hlarger hbelow => exact .opened h hlarger (Nat.lt_of_lt_of_le hbelow hle)
  | closed _ ih => exact .closed (ih hle)

theorem Alternates.length_openings {next : Nat} {past : List Notice} {current : Option Visit}
    (h : Alternates next past current) :
    (openings past).length = (closings past).length + current.toList.length := by
  induction h with
  | silent => rfl
  | opened h _ _ ih => simpa [openings, closings] using ih
  | closed h ih => simpa [openings, closings] using ih

theorem seenBy_append (k : Nat) (a b : List Effect) : seenBy k (a ++ b) = seenBy k a ++ seenBy k b :=
  List.filterMap_append

theorem seenBy_ofChannel (k : Nat) (connection : ConnectionId) (effects : List Channel.Effect) :
    seenBy k (ofChannel connection effects) = [] := by
  simp [seenBy, ofChannel, Effect.notice?]

/-! ## Whom the client accepts -/

/-- The socket that an event makes the client accept. -/
def takes? (c : Client σ) : Event σ → Option SocketAddress
  | .accept => if c.isReady then c.backlog.head? else none
  | _ => none

/-- The sockets that events make a client accept, in order. -/
def taken [Sink σ] (c : Client σ) : List (Event σ) → List SocketAddress
  | [] => []
  | event :: rest => (c.takes? event).toList ++ taken (c.step event).1 rest

/-! ## How far a task has come -/

/-- What stands for a socket in the count. -/
def Stage.guard? : Stage σ → Option Guard
  | .opening guard _ | .serving guard _ | .closing guard _ => some guard
  | .accepted | .leaving => none

/-- What stands for the socket that a listener was told comes, and not told goes. -/
def Stage.heard (k : Nat) : Stage σ → Option Guard
  | .opening guard told => if k < told then some guard else none
  | .serving guard _ => some guard
  | .closing guard told => if k < told then none else some guard
  | .accepted | .leaving => none

/-- A listener was told that the socket goes. -/
def Stage.isOver (k : Nat) : Stage σ → Bool
  | .closing _ told => k < told
  | .leaving => true
  | .accepted | .opening _ _ | .serving _ _ => false

/-- Listeners are being told one after another. -/
def Stage.isAnnouncing : Stage σ → Bool
  | .opening _ _ | .closing _ _ => true
  | .accepted | .serving _ _ | .leaving => false

/-- No listener knows more than another. -/
def IsQuiet (c : Client σ) : Prop := ∀ v ∈ c.visitors, v.stage.isAnnouncing = false

/-- The visit that a listener takes to go on. -/
def heardBy (c : Client σ) (k : Nat) : Option Visit :=
  c.visitors.head?.bind fun v => (v.stage.heard k).map fun guard => ⟨guard.id, v.peer⟩

/-- The sockets that were accepted, and that a listener was not told go. -/
def notOver (c : Client σ) (k : Nat) : List SocketAddress :=
  (c.visitors.filter fun v => !v.stage.isOver k).map Visitor.peer

theorem Stage.length_heard_le (k : Nat) (stage : Stage σ) :
    (stage.heard k).toList.length ≤ stage.guard?.toList.length := by
  cases stage with
  | accepted | serving _ _ | leaving => exact Nat.le_refl _
  | opening _ _ | closing _ _ => simp only [heard, guard?]; split <;> simp

theorem Stage.heard_eq {stage : Stage σ} (h : stage.isAnnouncing = false) (k : Nat) :
    stage.heard k = stage.guard? := by
  cases stage with
  | accepted | serving _ _ | leaving => rfl
  | opening _ _ | closing _ _ => cases h

/-! ## Who has the slot -/

/-- A client has no task, or one that holds the slot. -/
inductive Turn (c : Client σ) : Prop where
  | free (visitors : c.visitors = []) (live : c.slots.live = [])
      (active : c.activeConnections = 0)
  | held {v : Visitor σ} (visitors : c.visitors = [v]) (live : c.slots.live = [v.call])
      (active : c.activeConnections = v.stage.guard?.toList.length)
      (guard : ∀ guard ∈ v.stage.guard?, guard.tracker = tracker)

/-- A client has told each listener its `past`, and has accepted `entered`. -/
structure InTurn (c : Client σ) (past : Nat → List Notice) (entered : List SocketAddress) :
    Prop where
  total : c.slots.total = limit
  turn : Turn c
  /-- What a listener was told goes on to what it takes to be there. -/
  heard : ∀ k < c.audience, Alternates c.connections.nextId (past k) (c.heardBy k)
  /-- A listener that was not told yet knows smaller numbers only. -/
  fresh : ∀ v ∈ c.visitors, ∀ guard told, v.stage = .opening guard told →
    guard.id.number < c.connections.nextId ∧
      ∀ k < c.audience, told ≤ k → Alternates guard.id.number (past k) none
  entered : ∀ k < c.audience, entered = (closings (past k)).map (·.peer) ++ c.notOver k

variable {c d : Client σ} {past : Nat → List Notice} {entered : List SocketAddress}

theorem heardBy_of_visitors {v : Visitor σ} (h : c.visitors = [v]) (k : Nat) :
    c.heardBy k = (v.stage.heard k).map fun guard => ⟨guard.id, v.peer⟩ := by
  rw [heardBy, h]
  rfl

theorem notOver_of_visitors {v : Visitor σ} (h : c.visitors = [v]) (k : Nat) :
    c.notOver k = if v.stage.isOver k then [] else [v.peer] := by
  rw [notOver, h]
  cases hover : v.stage.isOver k <;> simp [hover]

/-- Nothing of it changes. -/
theorem InTurn.same (h : InTurn c past entered) (htotal : d.slots.total = c.slots.total)
    (hlive : d.slots.live = c.slots.live) (hvisitors : d.visitors = c.visitors)
    (hconnections : d.connections = c.connections) (haudience : d.audience = c.audience) :
    InTurn d past entered := by
  have hactive : d.activeConnections = c.activeConnections := by
    rw [activeConnections, hconnections, activeConnections]
  have hheard : d.heardBy = c.heardBy := by
    funext k
    rw [heardBy, hvisitors, heardBy]
  have hover : d.notOver = c.notOver := by
    funext k
    rw [notOver, hvisitors, notOver]
  refine ⟨htotal.trans h.total, ?_, ?_, ?_, ?_⟩
  · cases h.turn with
    | free visitors live active =>
      exact .free (hvisitors.trans visitors) (hlive.trans live) (hactive.trans active)
    | held visitors live active guard =>
      exact .held (hvisitors.trans visitors) (hlive.trans live) (hactive.trans active) guard
  · rw [haudience, hconnections, hheard]
    exact h.heard
  · rw [haudience, hconnections, hvisitors]
    exact h.fresh
  · rw [haudience, hover]
    exact h.entered

/-! ## The accept call -/

theorem InTurn.deafen (h : InTurn c past entered) {event : Slots.Event}
    (hlive : (c.slots.step event).live = c.slots.live) : InTurn (c.deafen event) past entered :=
  h.same (Slots.total_step _ _) hlive rfl rfl rfl

theorem InTurn.stop (h : InTurn c past entered) : InTurn c.stop past entered := by
  rw [Client.stop]
  split
  · exact (h.deafen (Slots.live_cancel _ _)).same rfl rfl rfl rfl rfl
  · exact h.same rfl rfl rfl rfl rfl

theorem InTurn.connect (h : InTurn c past entered) (peer : SocketAddress) :
    InTurn (c.connect peer) past entered := by
  rw [Client.connect]
  split
  · exact h.same rfl rfl rfl rfl rfl
  · exact h

/-- **A socket is accepted only when no other has a task**: the accept call holds the slot. -/
theorem InTurn.free (h : InTurn c past entered) (hready : c.isReady = true) :
    c.visitors = [] ∧ c.slots.live = [] ∧ c.activeConnections = 0 := by
  have hholding : c.call ∈ c.slots.holding := by
    rw [isReady, Bool.and_eq_true] at hready
    simpa using hready.2
  have hlt := Slots.length_live_lt hholding
  rw [h.total] at hlt
  cases h.turn with
  | free visitors live active => exact ⟨visitors, live, active⟩
  | held _ live =>
    rw [live] at hlt
    exact absurd hlt (Nat.lt_irrefl 1)

theorem InTurn.accept (h : InTurn c past entered) :
    InTurn c.accept past (entered ++ (c.takes? .accept).toList) := by
  rw [Client.accept, takes?]
  split
  · rename_i peer rest hbacklog
    split
    · rename_i hready
      obtain ⟨hvisitors, hlive, hactive⟩ := h.free hready
      have hholding : c.call ∈ c.slots.holding := by
        rw [isReady, Bool.and_eq_true] at hready
        simpa using hready.2
      have hone : c.visitors ++ [Visitor.mk c.call peer .accepted] = [⟨c.call, peer, .accepted⟩] := by
        rw [hvisitors, List.nil_append]
      refine ⟨?_, ?_, fun k hk => ?_, ?_, fun k hk => ?_⟩
      · rw [nextCall, Slots.total_step, Slots.total_step]
        exact h.total
      · refine .held (v := ⟨c.call, peer, .accepted⟩) hone ?_ hactive nofun
        rw [nextCall, Slots.live_begin, Slots.live_accept hholding, hlive]
        rfl
      · have hpast := h.heard k hk
        rw [heardBy, hvisitors] at hpast
        rw [heardBy_of_visitors hone]
        exact hpast
      · intro v hv guard told hstage
        rw [nextCall, hone, List.mem_singleton] at hv
        rw [hv] at hstage
        cases hstage
      · rw [h.entered k hk, hbacklog]
        simp [notOver, nextCall, hvisitors, Stage.isOver]
    · simpa using h
  · rename_i hbacklog
    simpa [hbacklog] using h

/-! ## The task -/

/-- A task that is there is the only one. -/
theorem InTurn.sole (h : InTurn c past entered) {call : Nat} {v : Visitor σ}
    (hv : c.visitor? call = some v) : c.visitors = [v] ∧ v.call = call ∧
      c.slots.live = [v.call] ∧ c.activeConnections = v.stage.guard?.toList.length ∧
      ∀ guard ∈ v.stage.guard?, guard.tracker = tracker := by
  rw [visitor?] at hv
  cases h.turn with
  | free visitors =>
    rw [visitors] at hv
    cases hv
  | @held w visitors live active guard =>
    have hcall := List.find?_some hv
    rw [visitors] at hv
    obtain rfl : v = w := List.mem_singleton.1 (List.mem_of_find?_eq_some hv)
    exact ⟨visitors, by simpa using hcall, live, active, guard⟩

@[simp] theorem connections_put (c : Client σ) (call : Nat) (stage : Stage σ) :
    (c.put call stage).connections = c.connections := rfl

theorem visitors_put {v : Visitor σ} (h : c.visitors = [v]) (stage : Stage σ) :
    (c.put v.call stage).visitors = [{ v with stage }] := by
  simp [put, h]

/-- **A task takes a step.**  It keeps the slot, and each listener is told at most what comes next.
-/
theorem InTurn.move (h : InTurn c past entered) {v : Visitor σ} (hv : c.visitors = [v])
    (stage : Stage σ) (more : Nat → List Notice) (hvisitors : d.visitors = [{ v with stage }]) (hslots : d.slots = c.slots)
    (haudience : d.audience = c.audience)
    (hactive : d.activeConnections = stage.guard?.toList.length)
    (hguard : ∀ guard ∈ stage.guard?, guard.tracker = tracker)
    (hheard : ∀ k < c.audience, Alternates d.connections.nextId (past k ++ more k)
      ((stage.heard k).map fun guard => ⟨guard.id, v.peer⟩))
    (hfresh : ∀ guard told, stage = .opening guard told →
      guard.id.number < d.connections.nextId ∧
        ∀ k < c.audience, told ≤ k → Alternates guard.id.number (past k ++ more k) none)
    (hover : ∀ k < c.audience, (closings (more k)).map Visit.peer ++
      (if stage.isOver k then [] else [v.peer]) = if v.stage.isOver k then [] else [v.peer]) :
    InTurn d (fun k => past k ++ more k) entered where
  total := hslots ▸ h.total
  turn := by
    cases h.turn with
    | free visitors => simp [visitors] at hv
    | @held w visitors live =>
      obtain rfl : w = v := by simpa [visitors] using hv
      exact .held hvisitors (hslots ▸ live) hactive hguard
  heard k hk := by
    rw [heardBy_of_visitors hvisitors]
    exact hheard k (haudience ▸ hk)
  fresh := by
    intro w hw guard told hstage
    rw [hvisitors, List.mem_singleton] at hw
    rw [hw] at hstage
    rw [haudience]
    exact hfresh guard told hstage
  entered k hk := by
    rw [haudience] at hk
    rw [h.entered k hk, notOver_of_visitors hv, notOver_of_visitors hvisitors, ← hover k hk,
      closings, closings, closings, List.filterMap_append, List.map_append, List.append_assoc]

/-- The socket is counted, and its number is larger than all that listeners have seen. -/
theorem InTurn.count (h : InTurn c past entered) {v : Visitor σ} (hv : c.visitors = [v])
    (hstage : v.stage = .accepted) (hactive : c.activeConnections = 0) :
    InTurn (c.count v).1 (fun k => past k ++ seenBy k (c.count v).2) entered := by
  have hpast : ∀ k < c.audience, Alternates c.connections.nextId (past k ++ []) none := by
    intro k hk
    have hheard := h.heard k hk
    rw [heardBy_of_visitors hv, hstage] at hheard
    simpa [Stage.heard] using hheard
  refine h.move hv (.opening ⟨⟨c.connections.nextId⟩, tracker⟩ 0)
    (fun k => seenBy k (c.count v).2) (by simp [Client.count, put, hv, Connections.track]) rfl rfl
    ?_ ?_ (fun k hk => ?_) ?_ fun k hk => ?_
  · change (c.connections.track tracker).2.active tracker = 1
    rw [Connections.active_track, if_pos rfl]
    exact congrArg (· + 1) hactive
  · rintro guard ⟨⟩
    rfl
  · exact (hpast k hk).mono (Nat.le_succ _)
  · rintro guard told ⟨⟩
    exact ⟨Nat.lt_succ_self _, fun k hk _ => hpast k hk⟩
  · rw [hstage]
    rfl

theorem seenBy_opened (k listener : Nat) (connection : ConnectionId) (peer : SocketAddress) :
    seenBy k [.opened listener connection peer] =
      if listener = k then [.opened ⟨connection, peer⟩] else [] := by
  simp only [seenBy, List.filterMap_cons, Effect.notice?, List.filterMap_nil]
  split <;> simp_all

theorem seenBy_closed (k listener : Nat) (connection : ConnectionId) (peer : SocketAddress) :
    seenBy k [.closed listener connection peer] =
      if listener = k then [.closed ⟨connection, peer⟩] else [] := by
  simp only [seenBy, List.filterMap_cons, Effect.notice?, List.filterMap_nil]
  split <;> simp_all

/-- One more listener is told that the socket comes. -/
theorem InTurn.tellOpened (h : InTurn c past entered) {v : Visitor σ} (hv : c.visitors = [v])
    {guard : Guard} {told : Nat} (hstage : v.stage = .opening guard told)
    (hactive : c.activeConnections = 1) (hguard : guard.tracker = tracker) :
    InTurn (c.put v.call (.opening guard (told + 1)))
      (fun k => past k ++ seenBy k [.opened told guard.id v.peer]) entered := by
  obtain ⟨hbelow, hfresh⟩ := h.fresh v (hv ▸ List.mem_singleton_self v) guard told hstage
  refine h.move hv _ _ (visitors_put hv (.opening guard (told + 1))) rfl rfl hactive ?_
    (fun k hk => ?_) ?_ fun k hk => ?_
  · rintro _ ⟨⟩
    exact hguard
  · have hheard := h.heard k hk
    rw [heardBy_of_visitors hv, hstage] at hheard
    rw [seenBy_opened, connections_put]
    obtain hlt | rfl | hgt := Nat.lt_trichotomy k told
    · rw [if_neg (Nat.ne_of_gt hlt), List.append_nil]
      simpa [Stage.heard, hlt, Nat.lt_succ_of_lt hlt] using hheard
    · have hopened : Alternates c.connections.nextId (past k ++ [.opened ⟨guard.id, v.peer⟩])
          (some ⟨guard.id, v.peer⟩) := .opened (hfresh k hk (Nat.le_refl k)) (Nat.le_refl _) hbelow
      rw [if_pos rfl]
      simpa [Stage.heard] using hopened
    · rw [if_neg (Nat.ne_of_lt hgt), List.append_nil]
      simpa [Stage.heard, Nat.not_lt_of_le (Nat.le_of_lt hgt), Nat.not_lt_of_le hgt] using hheard
  · rintro _ later ⟨⟩
    refine ⟨hbelow, fun k hk hle => ?_⟩
    rw [seenBy_opened, if_neg (Nat.ne_of_lt hle), List.append_nil]
    exact hfresh k hk (Nat.le_of_succ_le hle)
  · rw [hstage, seenBy_opened]
    split <;> rfl

/-- One more listener is told that the socket goes. -/
theorem InTurn.tellClosed (h : InTurn c past entered) {v : Visitor σ} (hv : c.visitors = [v])
    {guard : Guard} {told : Nat} (hstage : v.stage = .closing guard told)
    (hactive : c.activeConnections = 1) (hguard : guard.tracker = tracker) :
    InTurn (c.put v.call (.closing guard (told + 1)))
      (fun k => past k ++ seenBy k [.closed told guard.id v.peer]) entered := by
  refine h.move hv _ _ (visitors_put hv (.closing guard (told + 1))) rfl rfl hactive ?_
    (fun k hk => ?_) (fun _ _ hopening => nomatch hopening) fun k hk => ?_
  · rintro _ ⟨⟩
    exact hguard
  · have hheard := h.heard k hk
    rw [heardBy_of_visitors hv, hstage] at hheard
    rw [seenBy_closed, connections_put]
    obtain hlt | rfl | hgt := Nat.lt_trichotomy k told
    · rw [if_neg (Nat.ne_of_gt hlt), List.append_nil]
      simpa [Stage.heard, hlt, Nat.lt_succ_of_lt hlt] using hheard
    · rw [if_pos rfl]
      have hopen : Alternates c.connections.nextId (past k) (some ⟨guard.id, v.peer⟩) := by
        simpa [Stage.heard] using hheard
      simpa [Stage.heard] using hopen.closed
    · rw [if_neg (Nat.ne_of_lt hgt), List.append_nil]
      simpa [Stage.heard, Nat.not_lt_of_le (Nat.le_of_lt hgt), Nat.not_lt_of_le hgt] using hheard
  · rw [hstage, seenBy_closed]
    obtain hlt | rfl | hgt := Nat.lt_trichotomy k told
    · simp [Stage.isOver, hlt, Nat.lt_succ_of_lt hlt, Nat.ne_of_gt hlt, closings]
    · simp [Stage.isOver, closings]
    · simp [Stage.isOver, Nat.not_lt_of_le (Nat.le_of_lt hgt), Nat.not_lt_of_le hgt,
        Nat.ne_of_lt hgt, closings]

/-- The socket is off the count when all listeners were told. -/
theorem InTurn.discount (h : InTurn c past entered) {v : Visitor σ} (hv : c.visitors = [v])
    {guard : Guard} {told : Nat} (hstage : v.stage = .closing guard told)
    (htold : c.audience ≤ told) (hactive : c.activeConnections = 1)
    (hguard : guard.tracker = tracker) :
    InTurn (c.discount v guard).1 (fun k => past k ++ seenBy k (c.discount v guard).2) entered := by
  refine h.move hv .leaving (fun k => seenBy k (c.discount v guard).2)
    (by simp [Client.discount, put, hv]) rfl rfl ?_ (fun _ hguard => nomatch hguard)
    (fun k hk => ?_) (fun _ _ hopening => nomatch hopening) fun k hk => ?_
  · change (c.connections.release guard).active tracker = 0
    rw [Connections.active_release, if_pos hguard.symm]
    exact congrArg (· - 1) hactive
  · have hheard := h.heard k hk
    have hsilent : seenBy k (c.discount v guard).2 = [] := rfl
    rw [heardBy_of_visitors hv, hstage, Stage.heard, if_pos (Nat.lt_of_lt_of_le hk htold)] at hheard
    rw [hsilent, List.append_nil]
    exact hheard
  · rw [hstage]
    have hk' : k < told := Nat.lt_of_lt_of_le hk htold
    simp [Stage.isOver, hk', seenBy, Client.discount, Effect.notice?, closings]

/-- **The slot comes back last.** -/
theorem InTurn.leave (h : InTurn c past entered) {v : Visitor σ} (hv : c.visitors = [v])
    (hstage : v.stage = .leaving) (hlive : c.slots.live = [v.call])
    (hactive : c.activeConnections = 0) : InTurn (c.leave v) past entered := by
  have hnone : (c.leave v).visitors = [] := by simp [Client.leave, hv]
  refine ⟨(Slots.total_step _ _).trans h.total, .free hnone ?_ hactive, fun k hk => ?_, ?_,
    fun k hk => ?_⟩
  · rw [Client.leave, Slots.live_release, hlive, List.erase_cons_head]
  · have hheard := h.heard k hk
    rw [heardBy_of_visitors hv, hstage] at hheard
    rw [heardBy, hnone]
    exact hheard
  · rw [hnone]
    exact nofun
  · rw [h.entered k hk, notOver_of_visitors hv, hstage, notOver, hnone]
    rfl

theorem InTurn.proceed (h : InTurn c past entered) (call : Nat) :
    InTurn (c.proceed call).1 (fun k => past k ++ seenBy k (c.proceed call).2) entered := by
  have hidle : InTurn c (fun k => past k ++ seenBy k []) entered := by
    simpa only [seenBy, List.filterMap_nil, List.append_nil] using h
  rw [Client.proceed]
  cases hfound : c.visitor? call with
  | none => exact hidle
  | some v =>
    obtain ⟨hv, rfl, hlive, hactive, hguard⟩ := h.sole hfound
    dsimp only
    cases hstage : v.stage with
    | accepted =>
      rw [hstage] at hactive
      exact h.count hv hstage hactive
    | opening guard told =>
      rw [hstage] at hactive hguard
      dsimp only
      split
      · exact h.tellOpened hv hstage hactive (hguard guard rfl)
      · exact hidle
    | serving guard channel => exact hidle
    | closing guard told =>
      rw [hstage] at hactive hguard
      dsimp only
      split
      · exact h.tellClosed hv hstage hactive (hguard guard rfl)
      · rename_i htold
        exact h.discount hv hstage (Nat.not_lt.1 htold) hactive (hguard guard rfl)
    | leaving =>
      rw [hstage] at hactive
      have hleft := h.leave hv hstage hlive hactive
      simpa only [seenBy, List.filterMap_nil, List.append_nil] using hleft

/-- The channel may be opened, changed or closed: no listener is told of that. -/
theorem InTurn.serving (h : InTurn c past entered) {v : Visitor σ} (hv : c.visitors = [v])
    (stage : Stage σ) (hvisitors : d.visitors = [{ v with stage }]) (hslots : d.slots = c.slots)
    (haudience : d.audience = c.audience) (hconnections : d.connections = c.connections)
    (hguard : stage.guard? = v.stage.guard?)
    (hcount : c.activeConnections = v.stage.guard?.toList.length)
    (htracker : ∀ guard ∈ v.stage.guard?, guard.tracker = tracker)
    (hheard : ∀ k < c.audience, stage.heard k = v.stage.heard k)
    (hopening : ∀ guard told, stage ≠ .opening guard told)
    (hover : ∀ k < c.audience, stage.isOver k = v.stage.isOver k) : InTurn d past entered := by
  have hmoved : InTurn d (fun k => past k ++ []) entered := by
    refine h.move hv stage (fun _ => []) hvisitors hslots haudience ?_ (hguard ▸ htracker)
      (fun k hk => ?_) (fun guard told heq => absurd heq (hopening guard told)) fun k hk => ?_
    · rw [hguard, ← hcount, activeConnections, hconnections, activeConnections]
    · have hpast := h.heard k hk
      rw [heardBy_of_visitors hv] at hpast
      rw [hheard k hk, hconnections, List.append_nil]
      exact hpast
    · rw [hover k hk]
      rfl
  simpa only [List.append_nil] using hmoved

theorem InTurn.serve (h : InTurn c past entered) (call : Nat) (device : σ) :
    InTurn (c.serve call device).1 past entered := by
  rw [Client.serve, stage?]
  cases hfound : c.visitor? call with
  | none => exact h
  | some v =>
    obtain ⟨hv, rfl, -, hactive, hguard⟩ := h.sole hfound
    dsimp only [Option.map_some]
    cases hstage : v.stage with
    | opening guard told =>
      dsimp only
      split
      · exact h
      · rename_i htold
        refine h.serving hv _ (visitors_put hv _) rfl rfl rfl (hstage ▸ rfl) hactive hguard
          (fun k hk => ?_) nofun (fun k hk => hstage ▸ rfl)
        rw [hstage, Stage.heard, if_pos (Nat.lt_of_lt_of_le hk (Nat.not_lt.1 htold))]
        rfl
    | _ => exact h

/-- What is served may change, and nobody is told. -/
theorem InTurn.put_serving (h : InTurn c past entered) {call : Nat} {guard : Guard}
    {channel : Channel σ} (hstage : c.stage? call = some (.serving guard channel))
    (changed : Channel σ) : InTurn (c.put call (.serving guard changed)) past entered := by
  obtain ⟨v, hfound, hv⟩ := Option.map_eq_some_iff.1 hstage
  obtain ⟨hvisitors, rfl, -, hactive, hguard⟩ := h.sole hfound
  exact h.serving hvisitors _ (visitors_put hvisitors _) rfl rfl rfl (hv ▸ rfl) hactive hguard
    (fun k _ => hv ▸ rfl) nofun (fun k _ => hv ▸ rfl)

theorem InTurn.finish (h : InTurn c past entered) (call : Nat) :
    InTurn (c.finish call).1 past entered := by
  rw [Client.finish]
  cases hstage : c.stage? call with
  | none => exact h
  | some stage =>
    cases stage with
    | serving guard channel =>
      obtain ⟨v, hfound, hv⟩ := Option.map_eq_some_iff.1 hstage
      obtain ⟨hvisitors, rfl, -, hactive, hguard⟩ := h.sole hfound
      refine h.serving hvisitors (.closing guard 0) ?_ rfl rfl rfl (hv ▸ rfl) hactive hguard
        (fun k _ => hv ▸ rfl) nofun (fun k _ => hv ▸ rfl)
      simp [put, hvisitors]
    | _ => exact h

theorem seenBy_finish (c : Client σ) (call k : Nat) : seenBy k (c.finish call).2 = [] := by
  rw [Client.finish]
  split
  · exact seenBy_ofChannel _ _ _
  · rfl

theorem InTurn.data (h : InTurn c past entered) (call : Nat) (bytes : Bytes) :
    InTurn (c.data call bytes).1 past entered := by
  rw [Client.data]
  split
  · rename_i hstage
    split
    · exact h.finish call
    · exact h.put_serving hstage _
  · exact h

theorem seenBy_data (c : Client σ) (call : Nat) (bytes : Bytes) (k : Nat) :
    seenBy k (c.data call bytes).2 = [] := by
  rw [Client.data]
  split
  · split
    · exact seenBy_finish c call k
    · exact seenBy_ofChannel _ _ _
  · rfl

theorem seenBy_serve (c : Client σ) (call : Nat) (device : σ) (k : Nat) :
    seenBy k (c.serve call device).2 = [] := by
  rw [Client.serve]
  split
  · split
    · rfl
    · exact seenBy_ofChannel _ _ _
  · rfl

variable [Sink σ]

theorem InTurn.act (h : InTurn c past entered) (call : Nat) (event : Channel.Event σ) :
    InTurn (c.act call event).1 past entered := by
  rw [Client.act]
  split
  · rename_i hstage
    exact h.put_serving hstage _
  · exact h

theorem seenBy_act (c : Client σ) (call : Nat) (event : Channel.Event σ) (k : Nat) :
    seenBy k (c.act call event).2 = [] := by
  rw [Client.act]
  split
  · exact seenBy_ofChannel _ _ _
  · rfl

/-- **An event keeps the turns**, and adds what it tells and whom it accepts. -/
theorem InTurn.step (h : InTurn c past entered) (event : Event σ) :
    InTurn (c.step event).1 (fun k => past k ++ seenBy k (c.step event).2)
      (entered ++ (c.takes? event).toList) := by
  have hsilent : ∀ {d : Client σ} {effects : List Effect}, InTurn d past entered →
      (∀ k, seenBy k effects = []) → InTurn d (fun k => past k ++ seenBy k effects)
        (entered ++ (none : Option SocketAddress).toList) := by
    intro d effects hd hnone
    simpa [hnone] using hd
  cases event with
  | stop => exact hsilent h.stop fun _ => rfl
  | connect peer => exact hsilent (h.connect peer) fun _ => rfl
  | fail =>
    refine hsilent ?_ fun _ => rfl
    rw [Client.step]
    split
    · exact h.deafen (Slots.live_fail _ _)
    · exact h
  | accept => simpa [Client.step, seenBy] using h.accept
  | proceed call => exact (List.append_nil entered).symm ▸ h.proceed call
  | serve call device => exact hsilent (h.serve call device) (seenBy_serve c call device)
  | data call bytes => exact hsilent (h.data call bytes) (seenBy_data c call bytes)
  | channel call event => exact hsilent (h.act call event) (seenBy_act c call event)
  | finish call => exact hsilent (h.finish call) (seenBy_finish c call)

theorem InTurn.run (h : InTurn c past entered) (events : List (Event σ)) :
    InTurn (c.run events).1 (fun k => past k ++ seenBy k (c.run events).2)
      (entered ++ c.taken events) := by
  induction events generalizing c past entered with
  | nil => simpa [seenBy, Client.run, Client.taken] using h
  | cons event rest ih =>
    have hrest := ih (h.step event)
    simp only [List.append_assoc] at hrest
    simp only [Client.run, seenBy_append]
    exact hrest

/-! ## From the start -/

theorem audience_step (c : Client σ) (event : Event σ) :
    (c.step event).1.audience = c.audience := by
  cases event with
  | proceed call =>
    rw [Client.step, Client.proceed]
    repeat' split
    all_goals rfl
  | accept =>
    rw [Client.step, Client.accept]
    repeat' split
    all_goals rfl
  | data call bytes =>
    rw [Client.step, Client.data, Client.finish]
    repeat' split
    all_goals rfl
  | serve call device =>
    rw [Client.step, Client.serve]
    repeat' split
    all_goals rfl
  | channel call event =>
    rw [Client.step, Client.act]
    split <;> rfl
  | finish call =>
    rw [Client.step, Client.finish]
    split <;> rfl
  | stop =>
    rw [Client.step, Client.stop]
    split <;> rfl
  | connect peer =>
    rw [Client.step, Client.connect]
    split <;> rfl
  | fail =>
    rw [Client.step]
    split <;> rfl

theorem audience_run (c : Client σ) (events : List (Event σ)) :
    (c.run events).1.audience = c.audience := by
  induction events generalizing c with
  | nil => rfl
  | cons event rest ih => exact (ih _).trans (audience_step c event)

/-- No socket is there. -/
structure Idle (c : Client σ) : Prop where
  visitors : c.visitors = []
  active : c.activeConnections = 0

omit [Sink σ] in
theorem idle_ofEndpoint (endpoint : Endpoint) : (ofEndpoint endpoint : Client σ).Idle := ⟨rfl, rfl⟩

omit [Sink σ] in
theorem Idle.addListener (h : c.Idle) : c.addListener.Idle := ⟨h.visitors, h.active⟩

omit [Sink σ] in
theorem Idle.start (h : c.Idle) (hstart : c.start = .ok d) :
    InTurn d (fun _ => []) [] ∧ d.audience = c.registered := by
  rw [Client.start] at hstart
  split at hstart
  · cases hstart
  · cases hstart
    refine ⟨⟨Slots.total_step _ _, ?_, fun k _ => ?_, ?_, fun k _ => ?_⟩, rfl⟩
    · exact .free h.visitors (Slots.live_begin _ _) h.active
    · rw [heardBy, nextCall, h.visitors]
      exact .silent
    · rw [nextCall, h.visitors]
      exact nofun
    · rw [notOver, nextCall, h.visitors]
      rfl

/-- **What can be relied on** when such events have happened since a client with so many listeners
was started. -/
structure OneByOne (listeners : Nat) (start : Client σ) (events : List (Event σ)) (c : Client σ)
    (effects : List Effect) : Prop where
  /-- Every listener is told of one visit after the other.  The last one goes on until it is told.
  -/
  alternates : ∀ k < listeners, Alternates c.connections.nextId (seenBy k effects) (c.heardBy k)
  /-- The counter goes up before any listener is told that a socket comes, and down after all of
  them were told that it goes.  While none is being told, it counts what each of them has seen. -/
  counted : ∀ k < listeners,
    (openings (seenBy k effects)).length ≤
        (closings (seenBy k effects)).length + c.activeConnections ∧
      (c.IsQuiet → (openings (seenBy k effects)).length =
        (closings (seenBy k effects)).length + c.activeConnections)
  /-- It is zero or one. -/
  atMostOne : c.activeConnections ≤ 1
  /-- Who was accepted goes, in that order, but for one of whom a listener was not told so yet. -/
  inOrder : ∀ k < listeners,
    start.taken events = (closings (seenBy k effects)).map (·.peer) ++ c.notOver k
  /-- A socket in line is accepted when all listeners were told that everybody before it goes. -/
  waits : ∀ event peer, c.takes? event = some peer → c.activeConnections = 0 ∧
    ∀ k < listeners, start.taken events = (closings (seenBy k effects)).map (·.peer)
  /-- The client may be started again when nobody is there. -/
  again : c.visitors = [] → c.Idle

/-- **Local sockets are served one after the other**, in whatever order they connect and end, their
channels close and the client stops, and however far their tasks have come by then. -/
theorem run_oneByOne {start : Client σ} (hidle : c.Idle) (hstart : c.start = .ok start)
    (events : List (Event σ)) :
    OneByOne c.registered start events (start.run events).1 (start.run events).2 := by
  obtain ⟨hfirst, haudience⟩ := hidle.start hstart
  have h := hfirst.run events
  simp only [List.nil_append] at h
  rw [← haudience, ← audience_run start events]
  refine
    { alternates := h.heard
      counted := fun k hk => ?_
      atMostOne := ?_
      inOrder := h.entered
      waits := fun event peer htakes => ?_
      again := fun hvisitors => ?_ }
  · have hlength := (h.heard k hk).length_openings
    cases h.turn with
    | free visitors _ active =>
      have hnobody : (start.run events).1.heardBy k = none := by
        rw [heardBy, visitors]
        rfl
      rw [hnobody] at hlength
      rw [hlength, active]
      exact ⟨Nat.le_refl _, fun _ => rfl⟩
    | @held v visitors _ active _ =>
      rw [heardBy_of_visitors visitors, Option.toList_map, List.length_map] at hlength
      have hheard := Stage.length_heard_le k v.stage
      refine ⟨by omega, fun hquiet => ?_⟩
      have hsame := Stage.heard_eq (hquiet v (visitors ▸ List.mem_singleton_self v)) k
      rw [hsame] at hlength
      omega
  · cases h.turn with
    | free _ _ active => exact active ▸ Nat.zero_le 1
    | @held v _ _ active _ => exact active ▸ Option.length_toList_le
  · cases event with
    | accept =>
      rw [takes?] at htakes
      split at htakes
      · rename_i hready
        obtain ⟨hvisitors, -, hactive⟩ := h.free hready
        refine ⟨hactive, fun k hk => ?_⟩
        rw [h.entered k hk, notOver, hvisitors]
        exact List.append_nil _
      · cases htakes
    | _ => cases htakes
  · cases h.turn with
    | free _ _ active => exact ⟨hvisitors, active⟩
    | held visitors => cases hvisitors.symm.trans visitors

/-- Two sockets wait in line, and there are two listeners.  The second socket is accepted when the
task of the first has given the slot back, although the client is asked to before. -/
theorem run_oneByOne_two :
    let endpoint : Endpoint := ⟨⟨"", .domain "far", none, "/", none, none⟩, []⟩
    let client : Client SoundSink := (ofEndpoint endpoint).addListener.addListener
    let start : Client SoundSink :=
      { client with
        running := true, listening := true, audience := 2, slots := .ofLimit limit }.nextCall
    let first : SocketAddress := ⟨.v4 127 0 0 1, 40001⟩
    let second : SocketAddress := ⟨.v4 127 0 0 1, 40002⟩
    let open_ (call : Nat) : List (Event SoundSink) :=
      [.accept, .proceed call, .proceed call, .accept, .proceed call, .serve call ⟨⟩]
    let close (call : Nat) : List (Event SoundSink) :=
      [.finish call, .accept, .proceed call, .proceed call, .accept, .proceed call, .accept,
        .proceed call]
    let events := [.connect first, .connect second] ++ open_ 1 ++ [.channel 1 (.fail 1)] ++
      close 1 ++ open_ 2 ++ [.stop] ++ close 2
    client.Idle ∧ client.start = .ok start ∧
      OneByOne 2 start events (start.run events).1 (start.run events).2 ∧
      ∀ k < 2, seenBy k (start.run events).2 = [.opened ⟨⟨1⟩, first⟩, .closed ⟨⟨1⟩, first⟩,
        .opened ⟨⟨2⟩, second⟩, .closed ⟨⟨2⟩, second⟩] := by
  intro endpoint client start first second open_ close events
  have hidle : client.Idle := (idle_ofEndpoint _).addListener.addListener
  have hstart : client.start = .ok start := rfl
  exact ⟨hidle, hstart, run_oneByOne hidle hstart events, by decide +kernel⟩

end Client
end Tunnel
end PollTunnel
