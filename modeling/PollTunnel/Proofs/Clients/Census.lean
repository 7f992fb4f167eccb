import PollTunnel.Net.Tracker
import PollTunnel.Proofs.Lists

/-!
# Live connections are counted

Trackers count on their own, and number their connections together.  A `Census` is a process with
its trackers: who has a handle of which, which connections are being made, and which guards there
are.  The handles of a tracker are alike; a clone is one more of them, and guards outlive them all.

Calls of `track` may get into each other's way, since a connection is counted first and gets its
number after that (`Connections.count`, `Connections.number`).  In between other calls may count,
other connections may get their numbers, and guards may be dropped.

* `Tally` — a count is what is live and what is being made; numbers are given in order.
* `Tally.step`, `Tally.run` — events keep it so.
* `run_counted` — what follows for the counts and the numbers.
-/

set_option autoImplicit false

namespace PollTunnel

namespace Connections

/-- The first thing that `track` does: the connection is counted. -/
def count (c : Connections) (tracker : Nat) : Connections :=
  { c with active := (c.track tracker).2.active }

/-- The other thing that `track` does: the connection gets its number. -/
def number (c : Connections) (tracker : Nat) : Guard × Connections :=
  ((c.track tracker).1, { c with nextId := (c.track tracker).2.nextId })

/-- Nothing else is done. -/
theorem number_count (c : Connections) (tracker : Nat) :
    (c.count tracker).number tracker = c.track tracker := rfl

theorem active_count (c : Connections) (tracker t : Nat) :
    (c.count tracker).active t = c.active t + [tracker].count t := by
  rw [List.count_singleton, count, active_track]
  by_cases h : t = tracker
  · rw [if_pos h, if_pos (beq_iff_eq.2 h.symm)]
  · rw [if_neg h, if_neg (mt beq_iff_eq.1 (Ne.symm h))]
    rfl

/-- A count that is not zero is one less when a guard is dropped. -/
theorem active_release_add (c : Connections) {guard : Guard} (h : 0 < c.active guard.tracker)
    (t : Nat) : (c.release guard).active t + [guard.tracker].count t = c.active t := by
  rw [List.count_singleton, active_release]
  by_cases ht : t = guard.tracker
  · rw [if_pos ht, if_pos (beq_iff_eq.2 ht.symm), ht]
    exact Nat.sub_add_cancel h
  · rw [if_neg ht, if_neg (mt beq_iff_eq.1 (Ne.symm ht))]
    rfl

end Connections

/-- How many of some guards are a tracker's. -/
def Guard.countOf (guards : List Guard) (tracker : Nat) : Nat :=
  (guards.filter (·.tracker = tracker)).length

namespace Guard

theorem countOf_append (a b : List Guard) (t : Nat) :
    countOf (a ++ b) t = countOf a t + countOf b t := by
  rw [countOf, List.filter_append, List.length_append]
  rfl

theorem countOf_singleton (guard : Guard) (t : Nat) :
    countOf [guard] t = [guard.tracker].count t := by
  by_cases h : guard.tracker = t <;> simp [countOf, h]

theorem countOf_eq_zero_iff {guards : List Guard} {t : Nat} :
    countOf guards t = 0 ↔ ∀ guard ∈ guards, guard.tracker ≠ t := by
  simp [countOf]

theorem countOf_erase_add {guards : List Guard} {guard : Guard} (h : guard ∈ guards) (t : Nat) :
    countOf (guards.erase guard) t + [guard.tracker].count t = countOf guards t := by
  have herase := ((List.perm_cons_erase h).filter (·.tracker = t)).length_eq
  rw [← countOf_singleton, ← countOf_append]
  exact (((List.perm_append_singleton guard _).filter _).length_eq).trans herase.symm

end Guard

/-- A process and its trackers, which are numbered as they are made. -/
structure Census where
  connections : Connections := {}
  /-- How many trackers were made. -/
  trackers : Nat := 0
  /-- The trackers that somebody can use, once for each handle. -/
  handles : List Nat := []
  /-- The trackers that are making a connection, which is counted and has no number yet; once for
  each call. -/
  underway : List Nat := []
  /-- All guards that were made, in that order. -/
  made : List Guard := []
  /-- The guards that were not dropped. -/
  live : List Guard := []

namespace Census

/-- Something that happens to trackers and guards. -/
inductive Event where
  /-- A tracker is made. -/
  | make
  /-- A handle of a tracker is cloned. -/
  | clone (tracker : Nat)
  /-- A handle of a tracker is dropped. -/
  | forget (tracker : Nat)
  /-- A call of `track` begins, and counts the connection. -/
  | begin (tracker : Nat)
  /-- A call of `track` gives the connection its number and ends. -/
  | complete (tracker : Nat)
  /-- A guard is dropped. -/
  | release (guard : Guard)

/-- What an event does.  An event that names nothing that is there does nothing. -/
def step (s : Census) : Event → Census
  | .make => { s with trackers := s.trackers + 1, handles := s.handles ++ [s.trackers] }
  | .clone tracker =>
    if tracker ∈ s.handles then { s with handles := s.handles ++ [tracker] } else s
  | .forget tracker => { s with handles := s.handles.erase tracker }
  | .begin tracker =>
    if tracker ∈ s.handles then
      { s with
        connections := s.connections.count tracker
        underway := s.underway ++ [tracker] }
    else s
  | .complete tracker =>
    if tracker ∈ s.underway then
      let (guard, connections) := s.connections.number tracker
      { s with
        connections
        underway := s.underway.erase tracker
        made := s.made ++ [guard]
        live := s.live ++ [guard] }
    else s
  | .release guard =>
    if guard ∈ s.live then
      { s with connections := s.connections.release guard, live := s.live.erase guard }
    else s

/-- A process after a run of events. -/
def run (s : Census) (events : List Event) : Census := events.foldl step s

/-- The tracker whose count an event can change. -/
def Event.tracker? : Event → Option Nat
  | .begin tracker => some tracker
  | .release guard => some guard.tracker
  | .make | .clone _ | .forget _ | .complete _ => none

/-! ## The books -/

/-- The counts and the numbers are in order. -/
structure Tally (s : Census) : Prop where
  /-- What is live is counted, and what is being made. -/
  active : ∀ t, s.connections.active t = Guard.countOf s.live t + s.underway.count t
  /-- The next number comes after those that were given. -/
  nextId : s.connections.nextId = 1 + s.made.length
  numbers : s.made.map (·.id.number) = List.range' 1 s.made.length
  live : s.live.Sublist s.made
  /-- Nobody has anything of a tracker that is still to be made. -/
  handles : ∀ t ∈ s.handles, t < s.trackers
  underway : ∀ t ∈ s.underway, t < s.trackers
  made : ∀ guard ∈ s.made, guard.tracker < s.trackers

variable {s : Census}

theorem tally_start : Tally {} where
  active _ := rfl
  nextId := rfl
  numbers := rfl
  live := .slnil
  handles _ h := nomatch h
  underway _ h := nomatch h
  made _ h := nomatch h

/-- A guard that is live is counted. -/
theorem Tally.pos (h : s.Tally) {guard : Guard} (hguard : guard ∈ s.live) :
    0 < s.connections.active guard.tracker := by
  have hcount := Guard.countOf_erase_add hguard guard.tracker
  have hactive := h.active guard.tracker
  rw [List.count_singleton_self] at hcount
  omega

theorem Tally.begin (h : s.Tally) (tracker : Nat) : (s.step (.begin tracker)).Tally := by
  rw [Census.step]
  split
  · rename_i hhandle
    refine
      { h with
        active := fun t => ?_
        underway := List.forall_mem_append.2 ⟨h.underway, ?_⟩ }
    · rw [Connections.active_count, h.active, List.count_append, Nat.add_assoc]
    · exact List.forall_mem_singleton.2 (h.handles tracker hhandle)
  · exact h

theorem Tally.complete (h : s.Tally) (tracker : Nat) : (s.step (.complete tracker)).Tally := by
  rw [Census.step]
  split
  · rename_i hunderway
    refine
      { h with
        active := fun t => ?_
        nextId := ?_
        numbers := ?_
        live := h.live.append (List.Sublist.refl _)
        underway := fun t ht => h.underway t (List.mem_of_mem_erase ht)
        made := List.forall_mem_append.2 ⟨h.made, ?_⟩ }
    · -- the count stays: what was being made is live now
      have herase := count_erase_add hunderway t
      have hactive := h.active t
      rw [Guard.countOf_append, Guard.countOf_singleton]
      dsimp only [Connections.number, Connections.track]
      omega
    · rw [List.length_append, ← Nat.add_assoc, ← h.nextId]
      rfl
    · rw [List.map_append, h.numbers, List.length_append, List.length_singleton,
        List.range'_1_concat, ← h.nextId]
      rfl
    · exact List.forall_mem_singleton.2 (h.underway tracker hunderway)
  · exact h

theorem Tally.release (h : s.Tally) (guard : Guard) : (s.step (.release guard)).Tally := by
  rw [Census.step]
  split
  · rename_i hlive
    refine { h with active := fun t => ?_, live := List.erase_sublist.trans h.live }
    have hrelease := Connections.active_release_add s.connections (h.pos hlive) t
    have herase := Guard.countOf_erase_add hlive t
    have hactive := h.active t
    dsimp only
    omega
  · exact h

/-- **Events keep the books in order.** -/
theorem Tally.step (h : s.Tally) (event : Event) : (s.step event).Tally := by
  cases event with
  | begin tracker => exact h.begin tracker
  | complete tracker => exact h.complete tracker
  | release guard => exact h.release guard
  | make =>
    refine
      { h with
        handles := List.forall_mem_append.2 ⟨fun t ht => Nat.lt_succ_of_lt (h.handles t ht), ?_⟩
        underway := fun t ht => Nat.lt_succ_of_lt (h.underway t ht)
        made := fun guard hguard => Nat.lt_succ_of_lt (h.made guard hguard) }
    exact List.forall_mem_singleton.2 (Nat.lt_succ_self s.trackers)
  | clone tracker =>
    rw [Census.step]
    split
    · rename_i hhandle
      refine { h with handles := List.forall_mem_append.2 ⟨h.handles, ?_⟩ }
      exact List.forall_mem_singleton.2 (h.handles tracker hhandle)
    · exact h
  | forget tracker => exact { h with handles := fun t ht => h.handles t (List.mem_of_mem_erase ht) }

theorem Tally.run (h : s.Tally) (events : List Event) : (s.run events).Tally := by
  induction events generalizing s with
  | nil => exact h
  | cons event rest ih => exact ih (h.step event)

/-- A call of `track` that nothing gets in the way of. -/
theorem step_begin_complete {tracker : Nat} (h : tracker ∈ s.handles) :
    ((s.step (.begin tracker)).step (.complete tracker)).connections =
        (s.connections.track tracker).2 ∧
      ((s.step (.begin tracker)).step (.complete tracker)).live =
        s.live ++ [(s.connections.track tracker).1] := by
  have hunderway : tracker ∈ s.underway ++ [tracker] :=
    List.mem_append_right _ List.mem_cons_self
  rw [step, if_pos h, step, if_pos hunderway]
  exact ⟨rfl, rfl⟩

/-! ## Runs -/

/-- Trackers count on their own. -/
theorem active_step_of_ne {event : Event} {t : Nat} (h : event.tracker? ≠ some t) :
    (s.step event).connections.active t = s.connections.active t := by
  cases event with
  | make | forget => rfl
  | clone =>
    rw [step]
    split <;> rfl
  | begin tracker =>
    have hne : tracker ≠ t := fun heq => h (congrArg some heq)
    rw [step]
    split
    · dsimp only
      rw [Connections.active_count, List.count_singleton, if_neg (mt beq_iff_eq.1 hne)]
      rfl
    · rfl
  | complete tracker =>
    rw [step]
    split <;> rfl
  | release guard =>
    have hne : t ≠ guard.tracker := fun heq => h (congrArg some heq.symm)
    rw [step]
    split
    · dsimp only
      rw [Connections.active_release, if_neg hne]
    · rfl

/-- **What can be relied on** at any moment. -/
structure Counted (s : Census) : Prop where
  /-- A count is the number of live guards, and of connections that are being made. -/
  counted : ∀ t, s.connections.active t = Guard.countOf s.live t + s.underway.count t
  /-- While no connection is being made, it is the number of live guards, -/
  settled : ∀ t, t ∉ s.underway → s.connections.active t = Guard.countOf s.live t
  /-- and zero when all guards were dropped. -/
  idle : ∀ t, t ∉ s.underway →
    (s.connections.active t = 0 ↔ ∀ guard ∈ s.made, guard.tracker = t → guard ∉ s.live)
  /-- It goes down by one with each guard, and never below zero. -/
  down : ∀ guard ∈ s.live, (s.connections.release guard).active guard.tracker + 1 =
    s.connections.active guard.tracker
  /-- What happens to other trackers does not change it. -/
  alone : ∀ event t, event.tracker? ≠ some t →
    (s.step event).connections.active t = s.connections.active t
  /-- A new tracker begins with zero. -/
  fresh : s.connections.active s.trackers = 0
  /-- A guard is live once, after it was made. -/
  live : s.live.Sublist s.made
  /-- Guards have larger numbers than those before them, of whichever tracker, -/
  increasing : (s.made.map (·.id.number)).Pairwise (· < ·)
  /-- so that no number is given twice. -/
  distinct : (s.made.map (·.id)).Nodup
  /-- Sixty-four bits hold the numbers of fewer than two to the sixty-fourth connections, -/
  numbers : s.made.length < UInt64.size → ∀ guard ∈ s.made, guard.id.number < UInt64.size
  /-- and their counts as well. -/
  counts : s.made.length + s.underway.length < UInt64.size →
    ∀ t, s.connections.active t < UInt64.size

/-- **Live connections are counted**, by each tracker for itself, and no two of all connections have
the same number. -/
theorem run_counted (events : List Event) : Counted (run {} events) := by
  have h := tally_start.run events
  generalize run {} events = s at h
  have hsettled : ∀ t, t ∉ s.underway → s.connections.active t = Guard.countOf s.live t := by
    intro t ht
    rw [h.active, List.count_eq_zero.2 ht, Nat.add_zero]
  have hincreasing : (s.made.map (·.id.number)).Pairwise (· < ·) := by
    rw [h.numbers]
    exact List.pairwise_lt_range'
  refine
    { counted := h.active
      settled := hsettled
      idle := fun t ht => ?_
      down := fun guard hguard => ?_
      alone := fun event t => active_step_of_ne
      fresh := ?_
      live := h.live
      increasing := hincreasing
      distinct := ?_
      numbers := fun hlt guard hguard => ?_
      counts := fun hlt t => ?_ }
  · rw [hsettled t ht, Guard.countOf_eq_zero_iff]
    exact ⟨fun hnone guard _ htracker hlive => hnone guard hlive htracker,
      fun hdropped guard hlive htracker => hdropped guard (h.live.subset hlive) htracker hlive⟩
  · have hdown := Connections.active_release_add s.connections (h.pos hguard) guard.tracker
    rwa [List.count_singleton_self] at hdown
  · -- no guard and no call can be of a tracker that is still to be made
    have hlive : Guard.countOf s.live s.trackers = 0 :=
      Guard.countOf_eq_zero_iff.2 fun guard hguard =>
        Nat.ne_of_lt (h.made guard (h.live.subset hguard))
    have hunderway : s.trackers ∉ s.underway := fun ht => Nat.lt_irrefl _ (h.underway _ ht)
    rw [hsettled _ hunderway, hlive]
  · refine List.pairwise_map.2 ((List.pairwise_map.1 hincreasing).imp fun hlt heq => ?_)
    exact Nat.ne_of_lt hlt (congrArg ConnectionId.number heq)
  · have hnumber : guard.id.number ∈ List.range' 1 s.made.length :=
      h.numbers ▸ List.mem_map.2 ⟨guard, hguard, rfl⟩
    have hbound := (List.mem_range'_1.1 hnumber).2
    omega
  · have hlive : Guard.countOf s.live t ≤ s.made.length :=
      Nat.le_trans (List.length_filter_le _ _) h.live.length_le
    have hunderway : s.underway.count t ≤ s.underway.length := List.count_le_length
    rw [h.active]
    omega

/-- Two connections of one tracker, counted before either has its number; a clone makes another when
the tracker itself is gone. -/
example :
    let s := run {} [.make, .begin 0, .begin 0, .complete 0, .clone 0, .forget 0, .complete 0,
      .release ⟨⟨1⟩, 0⟩, .begin 0, .complete 0]
    s.connections.active 0 = 2 ∧ s.live = [⟨⟨2⟩, 0⟩, ⟨⟨3⟩, 0⟩] := by
  decide

end Census
end PollTunnel
