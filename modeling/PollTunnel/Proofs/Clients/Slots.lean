import PollTunnel.Net.Listener
import PollTunnel.Proofs.Lists

/-!
# Slots are conserved

A slot is free, held by an accept call that waits for a socket, or held by a permit.  Events move
slots between these three, and no event makes or loses one (`total_step`).

A permit is handed out when a call gets its socket and ends when it is dropped; nothing else changes
which permits are live.

* `total_step` — a step conserves the slots.
* `perm_step` — a call keeps a place, in line, with a slot or with a permit, until it is over.
* `IsBusy.step` — no slot is free while a call waits in line.
* `run_conserved` — what follows for listeners, whatever has happened to them.

Slots are counted, and calls are followed one by one.  That a call which fails or is given up leaves
no slot behind needs both: the slots are still all there, and none of them is the call's.
-/

set_option autoImplicit false

namespace PollTunnel
namespace Slots

variable {s : Slots} {call : Nat}

/-- **No event makes or loses a slot.** -/
theorem total_step (s : Slots) (event : Event) : (s.step event).total = s.total := by
  have hgiveBack : ∀ call ∈ s.holding,
      (giveBack { s with holding := s.holding.erase call }).total = s.total := by
    intro call hcall
    have hpos := List.length_pos_of_mem hcall
    rw [total_giveBack]
    simp only [total, List.length_erase_of_mem hcall]
    omega
  cases event with
  | begin call =>
    rw [step]
    split
    · rfl
    · rename_i n havailable
      simp only [total, havailable, List.length_append, List.length_singleton]
      omega
  | accept call =>
    rw [step]
    split
    · rename_i hcall
      have hpos := List.length_pos_of_mem hcall
      simp only [total, List.length_erase_of_mem hcall, List.length_append, List.length_singleton]
      omega
    · rfl
  | fail call | cancel call =>
    rw [step]
    split
    · exact hgiveBack call (by assumption)
    · rfl
  | release call =>
    rw [step]
    split
    · rename_i hcall
      have hpos := List.length_pos_of_mem hcall
      rw [total_giveBack]
      simp only [total, List.length_erase_of_mem hcall]
      omega
    · rfl

/-! ## The permits -/

theorem live_giveBack (s : Slots) : s.giveBack.live = s.live := by
  rw [giveBack]
  split <;> rfl

theorem live_begin (s : Slots) (call : Nat) : (s.step (.begin call)).live = s.live := by
  rw [step]
  split <;> rfl

theorem live_accept (h : call ∈ s.holding) : (s.step (.accept call)).live = s.live ++ [call] := by
  rw [step, if_pos h]

theorem live_fail (s : Slots) (call : Nat) : (s.step (.fail call)).live = s.live := by
  rw [step]
  split
  · exact live_giveBack _
  · rfl

theorem live_cancel (s : Slots) (call : Nat) : (s.step (.cancel call)).live = s.live := by
  rw [step]
  split
  · exact live_giveBack _
  · rfl

theorem live_release (s : Slots) (call : Nat) :
    (s.step (.release call)).live = s.live.erase call := by
  rw [step]
  split
  · exact live_giveBack _
  · rename_i hcall
    exact (List.erase_of_not_mem hcall).symm

/-- A call that holds a slot and the permits share what there is. -/
theorem length_live_lt (h : call ∈ s.holding) : s.live.length < s.total := by
  have hpos := List.length_pos_of_mem h
  rw [total]
  omega

/-! ## The calls

A call that has begun waits in line, holds a slot, or has brought a connection whose permit is live,
until it is over.  A call that is over has no place any more, and so no slot either. -/

/-- The calls that have a place. -/
def placed (s : Slots) : List Nat := s.waiting ++ s.holding ++ s.live

/-- The calls that an event begins. -/
def begins : Event → List Nat
  | .begin call => [call]
  | _ => []

/-- The calls that an event ends: one that fails or is given up, or one whose permit is dropped. -/
def ends (s : Slots) : Event → List Nat
  | .begin _ | .accept _ => []
  | .fail call => if call ∈ s.holding then [call] else []
  | .cancel call => if call ∈ s.holding ∨ call ∈ s.waiting then [call] else []
  | .release call => if call ∈ s.live then [call] else []

/-- The calls that events end one after another. -/
def ended (s : Slots) : List Event → List Nat
  | [] => []
  | event :: rest => s.ends event ++ ended (s.step event) rest

theorem run_cons (s : Slots) (event : Event) (rest : List Event) :
    s.run (event :: rest) = (s.step event).run rest := rfl

theorem total_run (s : Slots) (events : List Event) : (s.run events).total = s.total := by
  induction events generalizing s with
  | nil => rfl
  | cons event rest ih => rw [run_cons, ih, total_step]

theorem placed_giveBack (s : Slots) : s.giveBack.placed.Perm s.placed := by
  rw [giveBack]
  split
  · exact .rfl
  · rename_i call rest hwaiting
    refine List.perm_iff_count.2 fun other => ?_
    simp only [placed, hwaiting, List.count_append, List.count_cons, List.count_nil]
    omega

/-- What is taken out of one place is no longer in any. -/
theorem perm_erase_append {calls : List Nat} (before after : List Nat) (h : call ∈ calls) :
    (before ++ calls ++ after).Perm (before ++ calls.erase call ++ after ++ [call]) := by
  refine List.perm_iff_count.2 fun other => ?_
  have herase := count_erase_add h other
  simp only [List.count_append]
  omega

theorem perm_giveBack {t : Slots} (h : s.placed.Perm (t.placed ++ [call])) :
    s.placed.Perm (t.giveBack.placed ++ [call]) :=
  h.trans ((placed_giveBack t).symm.append_right [call])

/-- **A call keeps a place until it is over.** -/
theorem perm_step (s : Slots) (event : Event) :
    (s.placed ++ begins event).Perm ((s.step event).placed ++ s.ends event) := by
  cases event with
  | begin call =>
    -- a slot or the end of the line: either is a place
    refine List.perm_iff_count.2 fun other => ?_
    rw [step]
    split <;> simp only [placed, begins, ends, List.count_append, List.count_nil] <;> omega
  | accept call =>
    dsimp only [step, begins, ends]
    split
    · rename_i hcall
      simpa [placed] using perm_erase_append s.waiting s.live hcall
    · exact .rfl
  | fail call =>
    dsimp only [step, begins, ends]
    rw [List.append_nil]
    split
    · exact perm_giveBack (perm_erase_append s.waiting s.live (by assumption))
    · rw [List.append_nil]
  | cancel call =>
    dsimp only [step, begins, ends]
    rw [List.append_nil]
    split
    · rename_i hcall
      rw [if_pos (Or.inl hcall)]
      exact perm_giveBack (perm_erase_append s.waiting s.live hcall)
    · rename_i hcall
      simp only [hcall, false_or]
      split
      · rename_i hwaiting
        simpa [placed] using perm_erase_append [] (s.holding ++ s.live) hwaiting
      · rename_i hwaiting
        rw [List.erase_of_not_mem hwaiting, List.append_nil]
  | release call =>
    dsimp only [step, begins, ends]
    rw [List.append_nil]
    split
    · rename_i hcall
      refine perm_giveBack ?_
      simpa [placed] using perm_erase_append (s.waiting ++ s.holding) [] hcall
    · rw [List.append_nil]

theorem perm_run (s : Slots) (events : List Event) :
    (s.placed ++ events.flatMap begins).Perm ((s.run events).placed ++ s.ended events) := by
  induction events generalizing s with
  | nil => exact .rfl
  | cons event rest ih =>
    rw [run_cons, ended, List.flatMap_cons]
    refine List.perm_iff_count.2 fun call => ?_
    have hstep := (perm_step s event).count_eq call
    have hrest := (ih (s.step event)).count_eq call
    simp only [List.count_append] at hstep hrest ⊢
    omega

/-! ## The line -/

/-- No slot is free while a call waits for one. -/
def IsBusy (s : Slots) : Prop := s.waiting ≠ [] → s.available = 0

theorem IsBusy.giveBack (h : s.IsBusy) : s.giveBack.IsBusy := by
  rw [Slots.giveBack]
  split
  · exact fun hwaiting => absurd (by assumption) hwaiting
  · rename_i hwaiting
    exact fun _ => h (by rw [hwaiting]; exact List.cons_ne_nil _ _)

theorem IsBusy.step (h : s.IsBusy) (event : Event) : (s.step event).IsBusy := by
  cases event with
  | begin call =>
    rw [Slots.step]
    split
    · exact fun _ => by assumption
    · rename_i n havailable
      exact fun hwaiting => absurd (havailable.symm.trans (h hwaiting)) (Nat.succ_ne_zero n)
  | accept call =>
    rw [Slots.step]
    split <;> exact h
  | fail call =>
    rw [Slots.step]
    split
    · exact IsBusy.giveBack (s := { s with holding := s.holding.erase call }) h
    · exact h
  | cancel call =>
    rw [Slots.step]
    split
    · exact IsBusy.giveBack (s := { s with holding := s.holding.erase call }) h
    · exact fun hwaiting => h fun hnil => hwaiting (by rw [hnil]; rfl)
  | release call =>
    rw [Slots.step]
    split
    · exact IsBusy.giveBack (s := { s with live := s.live.erase call }) h
    · exact h

theorem IsBusy.run (h : s.IsBusy) (events : List Event) : (s.run events).IsBusy := by
  induction events generalizing s with
  | nil => exact h
  | cons event rest ih => exact ih (h.step event)

/-! ## Runs -/

/-- Only a call that holds a slot brings a connection. -/
theorem exists_of_length_live_lt {event : Event}
    (h : s.live.length < (s.step event).live.length) :
    ∃ call ∈ s.holding, event = .accept call := by
  cases event with
  | begin call =>
    rw [live_begin] at h
    exact absurd h (Nat.lt_irrefl _)
  | accept call =>
    rw [step] at h
    split at h
    · exact ⟨call, by assumption, rfl⟩
    · exact absurd h (Nat.lt_irrefl _)
  | fail call =>
    rw [live_fail] at h
    exact absurd h (Nat.lt_irrefl _)
  | cancel call =>
    rw [live_cancel] at h
    exact absurd h (Nat.lt_irrefl _)
  | release call =>
    rw [live_release] at h
    exact absurd h (Nat.not_lt.2 List.length_erase_le)

/-- A slot is nobody's any more: it is free, or the first call in line holds it. -/
def HandsBack (s t : Slots) : Prop :=
  (s.waiting = [] ∧ t.available = s.available + 1) ∨
    ∃ next rest, s.waiting = next :: rest ∧ t.waiting = rest ∧ next ∈ t.holding

theorem handsBack_giveBack (s : Slots) : s.HandsBack s.giveBack := by
  rw [giveBack]
  split
  · exact Or.inl ⟨by assumption, rfl⟩
  · rename_i next rest hwaiting
    exact Or.inr ⟨next, rest, hwaiting, rfl, List.mem_append_right _ List.mem_cons_self⟩

/-- **What can be relied on** when such events have happened to a listener that allows `limit`
connections. -/
structure Conserved (limit : Nat) (events : List Event) (s : Slots) : Prop where
  /-- Every slot is free, or a permit has it, or a call that waits for its socket. -/
  total : s.available + s.live.length + s.holding.length = limit
  /-- No more connections are live than are allowed. -/
  atMost : s.live.length ≤ limit
  /-- A call completes only if it has a slot, when fewer connections are live than are allowed. -/
  completes : ∀ event, s.live.length < (s.step event).live.length →
    s.live.length < limit ∧ ∃ call ∈ s.holding, event = .accept call
  /-- A call that fails or is given up, with a slot, leaves it to the first in line, if any. -/
  returns : ∀ call ∈ s.holding, ∀ event, event = .fail call ∨ event = .cancel call →
    s.HandsBack (s.step event)
  /-- Each call that has begun waits in line, or holds a slot, or its permit is live, or it is
  over. -/
  places : (events.flatMap begins).Perm
    (s.waiting ++ s.holding ++ s.live ++ (ofLimit limit).ended events)
  /-- A call that is over has no slot, whether it failed, was given up or its permit was dropped. -/
  gone : ∀ call ∈ (ofLimit limit).ended events, (events.flatMap begins).count call = 1 →
    call ∉ s.waiting ∧ call ∉ s.holding ∧ call ∉ s.live
  /-- No call waits in line for a slot that is free. -/
  busy : s.waiting ≠ [] → s.available = 0
  /-- Where no call has a slot, all are free. -/
  restored : s.holding = [] → s.live = [] → s.available = limit

/-- **Slots are conserved**, in whatever order calls begin, complete, fail and are given up, and
permits are dropped. -/
theorem run_conserved (limit : Nat) (events : List Event) :
    Conserved limit events ((ofLimit limit).run events) := by
  have htotal : ((ofLimit limit).run events).total = limit := total_run _ _
  have hplaces := perm_run (ofLimit limit) events
  have hbusy : (ofLimit limit).IsBusy := fun hwaiting => absurd rfl hwaiting
  generalize hs : (ofLimit limit).run events = s at htotal hplaces
  rw [total] at htotal
  refine
    { total := by omega
      atMost := by omega
      completes := fun event h => ?_
      returns := fun call hcall event hevent => ?_
      places := hplaces
      gone := fun call hover hone => ?_
      busy := hs ▸ hbusy.run events
      restored := fun hholding hlive => ?_ }
  · obtain ⟨call, hcall, hevent⟩ := exists_of_length_live_lt h
    have hlt := length_live_lt hcall
    rw [total] at hlt
    exact ⟨by omega, call, hcall, hevent⟩
  · have hback := handsBack_giveBack { s with holding := s.holding.erase call }
    rcases hevent with rfl | rfl <;> rw [step, if_pos hcall] <;> exact hback
  · -- it began once, and its end is one of what became of that: no place is left for it
    have hcount : (events.flatMap begins).count call =
        s.placed.count call + ((ofLimit limit).ended events).count call :=
      (hplaces.count_eq call).trans List.count_append
    have hpos := List.count_pos_iff.2 hover
    have hnone : call ∉ s.placed := List.count_eq_zero.1 (by omega)
    simpa [placed, not_or, and_assoc] using hnone
  · rw [hholding, hlive] at htotal
    exact htotal

/-- The only slot goes to the second call when the first fails, and to the third when the permit of
the second is dropped; the third is given up. -/
example :
    let events : List Event :=
      [.begin 1, .begin 2, .begin 3, .fail 1, .accept 2, .release 2, .cancel 3]
    (ofLimit 1).run events = { available := 1 } ∧ (ofLimit 1).ended events = [1, 2, 3] := by
  decide

end Slots
end PollTunnel
