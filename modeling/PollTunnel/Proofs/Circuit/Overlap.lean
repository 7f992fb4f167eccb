import Mathlib.Data.List.Perm.Basic
import PollTunnel.Proofs.Circuit.Closing
import PollTunnel.Proofs.Circuit.Tasks

/-!
# A channel closes once, whatever overlaps

Writes, closings and responses may be under way at the same time, and any of their accesses may come
between two of another's.  `Overlapping` says what holds then, and `Crowd.run_overlapping` that it
always does.

* A channel still closes once and stays closed.  The task that closes it tells those who wait next,
  and then the far end if it is leaving.
* Numbers are still taken one after another, for data that was brought to an open channel, and each
  is settled once.
* A task that looked whether the channel is open just before it closes does not notice.  So a number
  may still be taken, and a request may still be started, but only by those who looked before
  (`Final`).

The idea of the proofs is that whatever comes to a task is held by it until it goes (`Passes`): data
that was let in and waits for a number, a numbered payload that waits to be posted, a request that
is about to be started, the news that the channel has closed.  Each is one case analysis on a single
access, and what a whole run passes on follows from it (`Passes.run`).
-/

set_option autoImplicit false

namespace PollTunnel
namespace Tunnel
namespace Channel

variable {σ : Type}

/-! ## What accesses do -/

namespace Deed

/-- The data of a write that finds the channel open. -/
def accepted? (d : Deed σ) : Option Bytes :=
  match d.act with
  | .write data => if d.before.isOpen ∧ data ≠ [] then some data else none
  | _ => none

/-- The number that is taken, with the data that it is for. -/
def numbered? (d : Deed σ) : Option (Nat × Bytes) :=
  match d.act with
  | .number data => some (d.before.written + 1, data)
  | _ => none

/-- The poll or the post that is started. -/
def requested? (d : Deed σ) : Option Kind :=
  match d.act with
  | .start payload => some (.carrying payload)
  | _ => none

/-- The poll or the post that may be started, as the channel is open. -/
def allowed? (d : Deed σ) : Option Kind :=
  match d.act with
  | .launch payload => if d.before.isOpen then some (.carrying payload) else none
  | _ => none

/-- The channel closes; whoever closes it is leaving or not. -/
def closed? (d : Deed σ) : Option Bool :=
  match d.act with
  | .shut leaving => if d.before.isOpen then some leaving else none
  | _ => none

/-- Whoever waits for the channel to close is told. -/
def signalled? (d : Deed σ) : Option Bool :=
  match d.act with
  | .signal leaving => some leaving
  | _ => none

/-- The far end is told. -/
def told? (d : Deed σ) : Option Unit :=
  match d.act with
  | .disconnect => some ()
  | _ => none

end Deed

/-- A payload's number and data. -/
def entry (p : Payload) : Nat × Bytes := (p.sequence, p.data)

/-- A number that nothing is left to be done for: its payload is posted, or is not since the channel
has closed, or the number is too large for a payload. -/
def Deed.settled? (d : Deed σ) : Option (Nat × Bytes) :=
  match d.act with
  | .number data =>
    if maxSequence ≤ d.before.written then some (d.before.written + 1, data) else none
  | .launch payload => if d.before.isOpen then none else payload.map entry
  | .start payload => payload.map entry
  | _ => none

/-! ## What tasks hold -/

namespace Task

/-- The data that a task is about to number. -/
def accepted? : Task → Option Bytes
  | .number data => some data
  | _ => none

/-- The number that a task has taken, while its payload waits to be posted. -/
def numbered? : Task → Option (Nat × Bytes)
  | .launch payload | .start payload => payload.map entry
  | _ => none

/-- The poll or the post that a task is about to start. -/
def allowed? : Task → Option Kind
  | .start payload => some (.carrying payload)
  | _ => none

/-- A task has closed the channel, and is about to tell whoever waits for that. -/
def closed? : Task → Option Bool
  | .signal leaving => some leaving
  | _ => none

/-- A task is about to tell the far end, now or after those who wait. -/
def leaving? : Task → Option Unit
  | .signal leaving => if leaving then some () else none
  | .disconnect => some ()
  | _ => none

end Task

/-- What the tasks hold. -/
def Crowd.held {α : Type} (held : Task → Option α) (s : Crowd σ) : List α :=
  s.tasks.filterMap (·.bind held)

/-- Something comes to a task by an access, is held by it, and goes by a later access, or by the one
by which it comes. -/
structure Passes {α : Type} (comes : Deed σ → Option α) (held : Task → Option α)
    (goes : Deed σ → Option α) : Prop where
  /-- A task that begins holds nothing. -/
  begins : ∀ (event : Event σ) (task : Task), event.task? = some task → held task = none
  access : ∀ (k : Nat) (c : Channel σ) (task : Task) (a : Access σ), Acts c task a →
    (held task).toList ++ (comes ⟨k, task, c⟩).toList =
      (goes ⟨k, task, c⟩).toList ++ (a.next.bind held).toList

section Passes

variable {α : Type} {comes goes : Deed σ → Option α} {held : Task → Option α}

theorem filterMap_singleton {β : Type} (f : β → Option α) (b : β) :
    [b].filterMap f = (f b).toList := by
  cases h : f b <;> simp [h]

variable [Sink σ]

theorem Passes.step (h : Passes comes held goes) (s : Crowd σ) (event : Crowd.Event σ) :
    (s.held held ++ (s.step event).2.filterMap comes).Perm
      ((s.step event).2.filterMap goes ++ (s.step event).1.held held) := by
  have hsteps := s.step_steps event
  generalize s.step event = o at hsteps
  cases hsteps with
  | idle => simp
  | device device => simp [Crowd.held]
  | begins htask => simp [Crowd.held, h.begins _ _ htask]
  | @turns task a front back k htasks hacts =>
    have hpasses := h.access k s.channel task a hacts
    simp only [Crowd.held, htasks, filterMap_singleton, List.filterMap_append,
      ← List.singleton_append (l := back), Option.bind_some]
    classical
    refine List.perm_iff_count.2 fun x => ?_
    have hcount := congrArg (List.count x) hpasses
    simp only [List.count_append] at hcount ⊢
    omega

/-- **What comes to tasks goes or is still held.** -/
theorem Passes.run (h : Passes comes held goes) (s : Crowd σ) (events : List (Crowd.Event σ)) :
    (s.held held ++ (s.run events).2.filterMap comes).Perm
      ((s.run events).2.filterMap goes ++ (s.run events).1.held held) := by
  induction events generalizing s with
  | nil => simp [Crowd.run]
  | cons event rest ih =>
    have hstep := (h.step s event).append_right (((s.step event).1.run rest).2.filterMap comes)
    have hrest := (ih (s.step event).1).append_left ((s.step event).2.filterMap goes)
    simp only [Crowd.run, List.filterMap_append, ← List.append_assoc] at hstep hrest ⊢
    exact hstep.trans hrest

omit [Sink σ] in
/-- How a task goes on with a response holds nothing. -/
theorem bind_task? (hlaunch : held (.launch none) = none) (hshut : held (.shut false) = none)
    (sequel : Sequel) : sequel.task?.bind held = none := by
  cases sequel with
  | nothing => rfl
  | poll => exact hlaunch
  | stop => exact hshut

end Passes

/-- Data that is let in gets a number. -/
theorem passes_accepted :
    Passes (σ := σ) Deed.accepted? Task.accepted? (fun d => d.numbered?.map (·.2)) where
  begins event task h := by cases event <;> cases h <;> rfl
  access k c task a h := by
    cases h with
    | answered | read =>
      rw [bind_task? rfl rfl]
      rfl
    | _ => simp_all [Deed.accepted?, Deed.numbered?, Task.accepted?]

/-- What has a number is settled. -/
theorem passes_numbered : Passes (σ := σ) Deed.numbered? Task.numbered? Deed.settled? where
  begins event task h := by cases event <;> cases h <;> rfl
  access k c task a h := by
    cases h with
    | answered | read =>
      rw [bind_task? rfl rfl]
      rfl
    | @numbered p hsequence =>
      have hroom : ¬maxSequence ≤ c.written := by
        have := p.sequence_le
        omega
      simp [Deed.numbered?, Deed.settled?, Task.numbered?, hroom, entry, hsequence]
    | _ => simp_all [Deed.numbered?, Deed.settled?, Task.numbered?]

/-- A request that may be started is started. -/
theorem passes_allowed : Passes (σ := σ) Deed.allowed? Task.allowed? Deed.requested? where
  begins event task h := by cases event <;> cases h <;> rfl
  access k c task a h := by
    cases h with
    | answered | read =>
      rw [bind_task? rfl rfl]
      rfl
    | @signals leaving => cases leaving <;> rfl
    | _ => simp_all [Deed.allowed?, Deed.requested?, Task.allowed?]

/-- Those who wait for the channel to close are told once it has closed. -/
theorem passes_closed : Passes (σ := σ) Deed.closed? Task.closed? Deed.signalled? where
  begins event task h := by cases event <;> cases h <;> rfl
  access k c task a h := by
    cases h with
    | answered | read =>
      rw [bind_task? rfl rfl]
      rfl
    | @signals leaving => cases leaving <;> rfl
    | _ => simp_all [Deed.closed?, Deed.signalled?, Task.closed?]

/-- The far end is told once the channel has been closed from this side. -/
theorem passes_leaving :
    Passes (σ := σ) (fun d => d.closed?.bind fun leaving => if leaving then some () else none)
      Task.leaving? Deed.told? where
  begins event task h := by cases event <;> cases h <;> rfl
  access k c task a h := by
    cases h with
    | answered | read =>
      rw [bind_task? rfl rfl]
      rfl
    | @signals leaving => cases leaving <;> rfl
    | _ => simp_all [Deed.closed?, Deed.told?, Task.leaving?]

variable [Sink σ]

/-! ## What accesses cause -/

/-- The polls and the posts that are started, in order. -/
def asked (effects : List Effect) : List Kind :=
  ((started effects).map (·.2)).filter (· ≠ .disconnect)

theorem asked_outcome (d : Deed σ) : asked d.outcome.effects = d.requested?.toList := by
  obtain ⟨k, task, c⟩ := d
  have hacts := access_acts c task
  rw [Deed.outcome]
  generalize c.access task = a at hacts
  cases hacts with
  | @started payload => cases payload <;> rfl
  | _ => rfl

theorem disconnects_outcome (d : Deed σ) :
    (disconnects d.outcome.effects).length = d.told?.toList.length := by
  obtain ⟨k, task, c⟩ := d
  have hacts := access_acts c task
  rw [Deed.outcome]
  generalize c.access task = a at hacts
  cases hacts with
  | @started payload => cases payload <;> rfl
  | _ => rfl

/-- A payload that is posted settles its number. -/
theorem posts_outcome (d : Deed σ) :
    (posts d.outcome.effects).map entry = [] ∨
      (posts d.outcome.effects).map entry = d.settled?.toList := by
  obtain ⟨k, task, c⟩ := d
  have hacts := access_acts c task
  rw [Deed.outcome]
  generalize c.access task = a at hacts
  cases hacts with
  | @started payload =>
    right
    cases payload <;> rfl
  | _ => exact Or.inl rfl

/-- As long as the channel is open and there are numbers left, nothing else settles one. -/
theorem posts_outcome_of_isOpen {d : Deed σ} (hopen : d.before.isOpen = true)
    (hroom : ∀ entry, d.numbered? = some entry → entry.1 ≤ maxSequence) :
    (posts d.outcome.effects).map entry = d.settled?.toList := by
  obtain ⟨k, task, c⟩ := d
  have hacts := access_acts c task
  rw [Deed.outcome]
  generalize c.access task = a at hacts
  cases hacts with
  | @started payload => cases payload <;> rfl
  | spent hspent => exact absurd hspent (Nat.not_le_of_lt (hroom _ rfl))
  | @numbered p hsequence =>
    have hlast : ¬maxSequence ≤ c.written := Nat.not_le_of_lt (hroom _ rfl)
    simp [Deed.settled?, hlast, posts, started]
  | allowed _ | dropped _ => simp_all [Deed.settled?, posts, started]
  | _ => rfl

/-! ## Runs -/

namespace Crowd

/-- An access was made by its task when it was its turn, and the task found the channel as those
before had left it. -/
theorem exists_turn_of_mem {s : Crowd σ} {events : List (Event σ)} {d : Deed σ}
    (h : d ∈ (s.run events).2) : ∃ before after, events = before ++ .turn d.task :: after ∧
      (s.run before).1.channel = d.before ∧
        (s.run before).1.tasks[d.task]? = some (some d.act) := by
  induction events generalizing s with
  | nil => exact absurd h List.not_mem_nil
  | cons event rest ih =>
    rcases List.mem_append.1 h with h | h
    · refine ⟨[], rest, ?_⟩
      replace h : d ∈ (s.step event).2 := h
      cases event with
      | begin event =>
        rw [Crowd.step] at h
        split at h <;> exact absurd h List.not_mem_nil
      | turn k =>
        rw [Crowd.step] at h
        split at h
        · rename_i task htask
          obtain rfl := List.mem_singleton.1 h
          exact ⟨rfl, rfl, htask⟩
        · exact absurd h List.not_mem_nil
    · obtain ⟨before, after, rfl, hbefore⟩ := ih h
      exact ⟨event :: before, after, rfl, hbefore⟩

theorem run_append (s : Crowd σ) (before after : List (Event σ)) :
    s.run (before ++ after) = (((s.run before).1.run after).1,
      (s.run before).2 ++ ((s.run before).1.run after).2) := by
  induction before generalizing s with
  | nil => rfl
  | cons event rest ih => simp only [List.cons_append, run, ih, List.append_assoc]

theorem closed_step (s : Crowd σ) (event : Event σ) :
    ((s.step event).2.filterMap Deed.closed?).length + (s.step event).1.channel.isOpen.toNat =
      s.channel.isOpen.toNat := by
  have hsteps := s.step_steps event
  generalize s.step event = o at hsteps
  cases hsteps with
  | turns k htasks hacts =>
    rw [filterMap_singleton]
    cases hacts with
    | read hcounts =>
      rw [isOpen_of_counts hcounts]
      exact Nat.zero_add _
    | _ => simp_all [Deed.closed?, shut, start, number]
  | _ => exact Nat.zero_add _

/-- **Closing and being open balance.** -/
theorem closed_run (s : Crowd σ) (events : List (Event σ)) :
    ((s.run events).2.filterMap Deed.closed?).length + (s.run events).1.channel.isOpen.toNat =
      s.channel.isOpen.toNat := by
  induction events generalizing s with
  | nil => exact Nat.zero_add _
  | cons event rest ih =>
    have hstep := s.closed_step event
    have hrest := ih (s.step event).1
    simp only [run, List.filterMap_append, List.length_append]
    omega

/-- An access takes the next number, or none. -/
theorem numbered_step (s : Crowd σ) (event : Event σ) :
    ((s.step event).2.filterMap Deed.numbered? = [] ∧
        (s.step event).1.channel.written = s.channel.written) ∨
      ∃ data, (s.step event).2.filterMap Deed.numbered? = [(s.channel.written + 1, data)] ∧
        (s.step event).1.channel.written = s.channel.written + 1 := by
  have hsteps := s.step_steps event
  generalize s.step event = o at hsteps
  cases hsteps with
  | turns k htasks hacts =>
    cases hacts with
    | spent => exact Or.inr ⟨_, rfl, rfl⟩
    | numbered => exact Or.inr ⟨_, rfl, rfl⟩
    | read hcounts => exact Or.inl ⟨rfl, congrArg Counts.written hcounts⟩
    | _ => exact Or.inl ⟨rfl, rfl⟩
  | _ => exact Or.inl ⟨rfl, rfl⟩

/-- **Numbers are taken one after another.** -/
theorem numbered_run (s : Crowd σ) (events : List (Event σ)) :
    ((s.run events).2.filterMap Deed.numbered?).map (·.1) =
        List.range' (s.channel.written + 1) ((s.run events).2.filterMap Deed.numbered?).length ∧
      (s.run events).1.channel.written =
        s.channel.written + ((s.run events).2.filterMap Deed.numbered?).length := by
  induction events generalizing s with
  | nil => exact ⟨rfl, rfl⟩
  | cons event rest ih =>
    obtain ⟨hnumbers, hwritten⟩ := ih (s.step event).1
    simp only [run, List.filterMap_append]
    rcases s.numbered_step event with ⟨hnone, hsame⟩ | ⟨data, hone, hnext⟩
    · rw [hsame] at hnumbers hwritten
      rw [hnone, List.nil_append]
      exact ⟨hnumbers, hwritten⟩
    · rw [hnext] at hnumbers hwritten
      rw [hone, List.singleton_append, List.map_cons, hnumbers, List.length_cons]
      exact ⟨rfl, hwritten.trans (by omega)⟩

theorem closer_step (s : Crowd σ) (event : Event σ) :
    (s.step event).1.channel.closer = true ↔
      s.channel.closer = true ∨ (s.step event).2.filterMap Deed.signalled? ≠ [] := by
  have hsteps := s.step_steps event
  generalize s.step event = o at hsteps
  cases hsteps with
  | turns k htasks hacts =>
    rw [filterMap_singleton]
    cases hacts with
    | read _ hcloser => simp [Deed.signalled?, hcloser]
    | _ => simp [Deed.signalled?, shut, start, number]
  | _ => simp [Channel.step]

/-- Those who wait for the channel to close have been told if a task told them. -/
theorem closer_run (s : Crowd σ) (events : List (Event σ)) :
    (s.run events).1.channel.closer = true ↔
      s.channel.closer = true ∨ (s.run events).2.filterMap Deed.signalled? ≠ [] := by
  induction events generalizing s with
  | nil => simp [run]
  | cons event rest ih =>
    simp only [run, List.filterMap_append]
    rw [ih, closer_step, Ne, Ne, Ne, List.append_eq_nil_iff, Classical.not_and_iff_not_or_not,
      or_assoc]

theorem mem_pending_step {s : Crowd σ} {event : Event σ} {entry : Nat × Headers}
    (h : entry ∈ (s.step event).1.channel.pending) :
    entry ∈ s.channel.pending ∨ ∃ d ∈ (s.step event).2,
      d.act = .head entry.1 Status.ok entry.2 ∧ d.before.isOpen = true := by
  have hsteps := s.step_steps event
  generalize s.step event = o at h hsteps
  cases hsteps with
  | turns k htasks hacts =>
    cases hacts with
    | taken hopen =>
      rcases List.mem_append.1 h with h | h
      · exact Or.inl h
      · obtain rfl := List.mem_singleton.1 h
        exact Or.inr ⟨_, List.mem_singleton_self _, rfl, hopen⟩
    | read _ _ hpending =>
      rw [hpending] at h
      exact Or.inl (List.mem_of_mem_filter h)
    | _ => exact Or.inl h
  | _ => exact Or.inl h

/-- A body that is waited for belongs to a response whose head was taken while the channel was
open. -/
theorem mem_pending_run {s : Crowd σ} {events : List (Event σ)} {entry : Nat × Headers}
    (h : entry ∈ (s.run events).1.channel.pending) :
    entry ∈ s.channel.pending ∨ ∃ d ∈ (s.run events).2,
      d.act = .head entry.1 Status.ok entry.2 ∧ d.before.isOpen = true := by
  induction events generalizing s with
  | nil => exact Or.inl h
  | cons event rest ih =>
    rcases ih h with h | ⟨d, hd, hhead⟩
    · rcases mem_pending_step h with h | ⟨d, hd, hhead⟩
      · exact Or.inl h
      · exact Or.inr ⟨d, List.mem_append_left _ hd, hhead⟩
    · exact Or.inr ⟨d, List.mem_append_right _ hd, hhead⟩

/-- Only the access to a body makes the channel write anything, if the head was taken. -/
theorem exists_pending_of_written {s : Crowd σ} {event : Event σ}
    (h : (s.step event).1.channel.forwarder.outlet.written ≠
      s.channel.forwarder.outlet.written) :
    ∃ k request content headers, event = .turn k ∧
      s.tasks[k]? = some (some (.body request content)) ∧
        (request, headers) ∈ s.channel.pending := by
  cases event with
  | begin event =>
    rw [Crowd.step] at h
    cases event <;> exact absurd rfl h
  | turn k =>
    rw [Crowd.step] at h
    split at h
    · rename_i task htask
      have hacts := access_acts s.channel task
      dsimp only at h
      generalize s.channel.access task = a at h hacts
      cases hacts with
      | read _ _ _ hforwarder =>
        rcases hforwarder with hsame | ⟨headers, hpending⟩
        · exact absurd (by rw [hsame]) h
        · exact ⟨k, _, _, headers, rfl, htask, hpending⟩
      | _ => exact absurd rfl h
    · exact absurd rfl h

/-! ## Closed for good -/

/-- A channel that is closed stays so. -/
theorem isOpen_of_run {s : Crowd σ} {events : List (Event σ)}
    (h : (s.run events).1.channel.isOpen = true) : s.channel.isOpen = true := by
  have hclosed := s.closed_run events
  rw [h] at hclosed
  cases hopen : s.channel.isOpen with
  | true => rfl
  | false =>
    rw [hopen] at hclosed
    exact absurd hclosed (Nat.succ_ne_zero _)

theorem isOpen_of_mem {s : Crowd σ} {events : List (Event σ)} {d : Deed σ}
    (hmem : d ∈ (s.run events).2) (h : (s.run events).1.channel.isOpen = true) :
    d.before.isOpen = true := by
  obtain ⟨before, after, rfl, hbefore, -⟩ := exists_turn_of_mem hmem
  rw [run_append] at h
  exact hbefore ▸ isOpen_of_run h

theorem closed_of_mem {s : Crowd σ} {events : List (Event σ)} {d : Deed σ}
    (hmem : d ∈ (s.run events).2) (h : s.channel.isOpen = false) : d.before.isOpen = false := by
  obtain ⟨before, -, -, hbefore, -⟩ := exists_turn_of_mem hmem
  rw [← hbefore, ← Bool.not_eq_true]
  exact fun hopen => Bool.noConfusion (h.symm.trans (isOpen_of_run hopen))

end Crowd

/-! ## Effects of a run -/

theorem asked_effects (deeds : List (Deed σ)) :
    asked (Crowd.effects deeds) = deeds.filterMap Deed.requested? := by
  induction deeds with
  | nil => rfl
  | cons d rest ih =>
    have happend : asked (d.outcome.effects ++ Crowd.effects rest) =
        asked d.outcome.effects ++ asked (Crowd.effects rest) := by
      simp [asked, started]
    rw [← List.singleton_append, List.filterMap_append, filterMap_singleton, ← asked_outcome, ← ih]
    exact happend

theorem disconnects_effects (deeds : List (Deed σ)) :
    (disconnects (Crowd.effects deeds)).length = (deeds.filterMap Deed.told?).length := by
  induction deeds with
  | nil => rfl
  | cons d rest ih =>
    rw [← List.singleton_append, List.filterMap_append, filterMap_singleton, List.length_append,
      ← disconnects_outcome, ← ih, ← List.length_append, ← disconnects_append]
    rfl

theorem posts_effects_cons (d : Deed σ) (rest : List (Deed σ)) :
    (posts (Crowd.effects (d :: rest))).map entry =
      (posts d.outcome.effects).map entry ++ (posts (Crowd.effects rest)).map entry := by
  rw [← List.map_append, ← posts_append]
  rfl

theorem posts_effects_sublist (deeds : List (Deed σ)) :
    ((posts (Crowd.effects deeds)).map entry).Sublist (deeds.filterMap Deed.settled?) := by
  induction deeds with
  | nil => exact .refl _
  | cons d rest ih =>
    rw [← List.singleton_append, List.filterMap_append, filterMap_singleton, List.singleton_append,
      posts_effects_cons]
    refine List.Sublist.append ?_ ih
    rcases posts_outcome d with hnone | hsettled
    · exact hnone ▸ List.nil_sublist _
    · exact hsettled ▸ .refl _

theorem posts_effects_of_isOpen {deeds : List (Deed σ)}
    (hopen : ∀ d ∈ deeds, d.before.isOpen = true)
    (hroom : ∀ entry ∈ deeds.filterMap Deed.numbered?, entry.1 ≤ maxSequence) :
    (posts (Crowd.effects deeds)).map entry = deeds.filterMap Deed.settled? := by
  induction deeds with
  | nil => rfl
  | cons d rest ih =>
    have hfirst : (posts d.outcome.effects).map entry = d.settled?.toList :=
      posts_outcome_of_isOpen (hopen d List.mem_cons_self) fun entry hentry =>
        hroom entry (List.mem_filterMap.2 ⟨d, List.mem_cons_self, hentry⟩)
    have hrest := ih (fun d hd => hopen d (List.mem_cons_of_mem _ hd)) fun entry hentry => by
      obtain ⟨d, hd, hnumbered⟩ := List.mem_filterMap.1 hentry
      exact hroom entry (List.mem_filterMap.2 ⟨d, List.mem_cons_of_mem _ hd, hnumbered⟩)
    rw [← List.singleton_append, List.filterMap_append, filterMap_singleton, List.singleton_append,
      posts_effects_cons, hfirst, hrest]

/-! ## Whatever overlaps -/

/-- What a closed channel comes to, whatever its tasks do and whatever else comes. -/
structure Final (s after : Crowd σ) (deeds : List (Deed σ)) : Prop where
  /-- It stays closed. -/
  closed : after.channel.isOpen = false
  /-- Every write that comes now fails, an empty one as well, and takes no number. -/
  refuses : ∀ d ∈ deeds, ∀ data, d.act = .write data →
    d.outcome = { channel := d.before, result := some (.error .channelClosed) }
  /-- Every response that comes now is ignored. -/
  ignores : ∀ d ∈ deeds, ∀ request status headers, d.act = .head request status headers →
    d.outcome = { channel := d.before }
  /-- Numbers are taken only for data that has been let in before. -/
  numbered : (s.held Task.accepted?).Perm
    ((deeds.filterMap Deed.numbered?).map (·.2) ++ after.held Task.accepted?)
  /-- Polls and posts are started only by tasks that have looked before. -/
  asked : (s.held Task.allowed?).Perm
    (asked (Crowd.effects deeds) ++ after.held Task.allowed?)

/-- **What holds of a channel and its tasks** when they have made such accesses, whatever overlaps.
-/
structure Overlapping (s : Crowd σ) (deeds : List (Deed σ)) : Prop where
  /-- Data that a write brought to an open channel gets a number, and nothing else does. -/
  accepted : (deeds.filterMap Deed.accepted?).Perm
    ((deeds.filterMap Deed.numbered?).map (·.2) ++ s.held Task.accepted?)
  /-- The numbers are taken one after another, from one on and without a gap. -/
  numbered : (deeds.filterMap Deed.numbered?).map (·.1) =
    List.range' 1 (deeds.filterMap Deed.numbered?).length
  /-- Each is settled once, for the data that it was taken for, unless a task still works on it. -/
  settled : (deeds.filterMap Deed.numbered?).Perm
    (deeds.filterMap Deed.settled? ++ s.held Task.numbered?)
  /-- What is posted settles its number. -/
  posted : ((posts (Crowd.effects deeds)).map entry).Sublist (deeds.filterMap Deed.settled?)
  /-- While the channel is open, nothing else settles one, until the numbers are used up. -/
  complete : s.channel.isOpen = true →
    (deeds.filterMap Deed.numbered?).length ≤ maxSequence →
      (posts (Crowd.effects deeds)).map entry = deeds.filterMap Deed.settled?
  /-- The channel has closed once if it is closed, and not yet if it is open. -/
  once : (deeds.filterMap Deed.closed?).length + s.channel.isOpen.toNat = 1
  /-- Those who wait for that have been told, or are by the next access of the task that closed it.
  -/
  signalled : (deeds.filterMap Deed.closed?).length =
    s.channel.closer.toNat + (s.held Task.closed?).length
  /-- The far end is told by the task that closed the channel from this side, and by no other. -/
  told : (deeds.filterMap Deed.closed?).count true =
    (disconnects (Crowd.effects deeds)).length + (s.held Task.leaving?).length
  /-- It is told once at most. -/
  atMostOnce : (disconnects (Crowd.effects deeds)).length ≤ 1
  /-- Closing is final, but for what those do who looked before. -/
  final : s.channel.isOpen = false → ∀ more, Final s (s.run more).1 (s.run more).2
  /-- What the device takes is the body of a response that the channel began to deal with while it
  was open: a response that comes after the closing writes nothing. -/
  begun : ∀ event,
    (s.step event).1.channel.forwarder.outlet.written ≠ s.channel.forwarder.outlet.written →
      ∃ k request content headers, event = .turn k ∧
        s.tasks[k]? = some (some (.body request content)) ∧
          ∃ d ∈ deeds, d.act = .head request Status.ok headers ∧ d.before.isOpen = true

theorem Crowd.run_final {s : Crowd σ} (h : s.channel.isOpen = false)
    (events : List (Event σ)) : Final s (s.run events).1 (s.run events).2 := by
  have hbefore : ∀ d ∈ (s.run events).2, ¬d.before.isOpen = true := fun d hd => by
    simp [closed_of_mem hd h]
  have hnone : ∀ {α : Type} {f : Deed σ → Option α},
      (∀ d : Deed σ, ¬d.before.isOpen = true → f d = none) → (s.run events).2.filterMap f = [] := by
    intro α f hf
    exact List.filterMap_eq_nil_iff.2 fun d hd => hf d (hbefore d hd)
  refine
    { closed := ?_
      refuses := fun d hd data hact => ?_
      ignores := fun d hd request status headers hact => ?_
      numbered := ?_
      asked := ?_ }
  · exact Bool.eq_false_iff.2 fun hopen => Bool.noConfusion (h.symm.trans (isOpen_of_run hopen))
  · rw [Deed.outcome, hact]
    exact if_neg (hbefore d hd)
  · rw [Deed.outcome, hact]
    exact if_neg (hbefore d hd)
  · have hpasses := passes_accepted.run s events
    rw [hnone fun d hd => by rw [Deed.accepted?]; split <;> simp [hd], List.append_nil] at hpasses
    rwa [List.map_filterMap]
  · have hpasses := passes_allowed.run s events
    rw [hnone fun d hd => by rw [Deed.allowed?]; split <;> simp [hd], List.append_nil] at hpasses
    rwa [asked_effects]

omit [Sink σ] in
theorem length_filterMap_leaving (deeds : List (Deed σ)) :
    (deeds.filterMap fun d =>
        d.closed?.bind fun leaving => if leaving then some () else none).length =
      (deeds.filterMap Deed.closed?).count true := by
  induction deeds with
  | nil => rfl
  | cons d rest ih =>
    cases hclosed : d.closed? with
    | none => simp [hclosed, ih]
    | some leaving => cases leaving <;> simp [hclosed, ih]

/-- Those who wait have been told if the channel's task has said so. -/
theorem Crowd.length_signalled (device : σ) (events : List (Event σ)) :
    (((onto device).run events).2.filterMap Deed.signalled?).length =
      ((onto device).run events).1.channel.closer.toNat := by
  have hclosed := (onto device).closed_run events
  have hsignalled := (passes_closed.run (onto device) events).length_eq
  have hcloser := (onto device).closer_run events
  rw [List.length_append, List.length_append] at hsignalled
  have hopen : (onto device).channel.isOpen.toNat = 1 := rfl
  have hnone : ((onto device).held Task.closed?).length = 0 := rfl
  cases htold : ((onto device).run events).1.channel.closer with
  | true =>
    have hsome := (hcloser.1 htold).resolve_left Bool.false_ne_true
    have hpos := List.length_pos_of_ne_nil hsome
    rw [Bool.toNat_true]
    omega
  | false =>
    rw [htold] at hcloser
    have hnil := Classical.not_not.1 fun hne => Bool.noConfusion (hcloser.2 (Or.inr hne))
    rw [hnil]
    rfl

/-- **Closing is final and happens once**, in whatever order the tasks of a channel make their
accesses. -/
theorem Crowd.run_overlapping (device : σ) (events : List (Event σ)) :
    Overlapping ((onto device).run events).1 ((onto device).run events).2 := by
  have honce : _ = 1 := (onto device).closed_run events
  have hnumbers := ((onto device).numbered_run events).1
  have htold := (passes_leaving.run (onto device) events).length_eq
  have hsignalled := (passes_closed.run (onto device) events).length_eq
  rw [List.length_append, List.length_append, length_filterMap_leaving, ← disconnects_effects]
    at htold
  rw [List.length_append, List.length_append, length_signalled] at hsignalled
  have hleaving : ((onto device).held Task.leaving?).length = 0 := rfl
  have hclosing : ((onto device).held Task.closed?).length = 0 := rfl
  refine
    { accepted := ?_
      numbered := hnumbers
      settled := passes_numbered.run (onto device) events
      posted := posts_effects_sublist _
      complete := fun hopen hfew => ?_
      once := honce
      signalled := by omega
      told := by omega
      atMostOnce := ?_
      final := fun hclosed more => run_final hclosed more
      begun := fun event hne => ?_ }
  · have hpasses := passes_accepted.run (onto device) events
    rwa [← List.map_filterMap] at hpasses
  · refine posts_effects_of_isOpen (fun d hd => isOpen_of_mem hd hopen) fun entry hentry => ?_
    have hmem := List.mem_map_of_mem (f := Prod.fst) hentry
    rw [hnumbers, List.mem_range'_1] at hmem
    have : (onto device).channel.written = 0 := rfl
    omega
  · have hle : (((onto device).run events).2.filterMap Deed.closed?).count true ≤ _ :=
      List.count_le_length
    omega
  · obtain ⟨k, request, content, headers, hevent, htask, hpending⟩ := exists_pending_of_written hne
    rcases mem_pending_run hpending with hpending | hhead
    · exact absurd hpending List.not_mem_nil
    · exact ⟨k, request, content, headers, hevent, htask, hhead⟩

/-- A write that makes some accesses, then an answer that closes the channel, then the write again.
-/
def Crowd.overtaken (accesses : Nat) : Crowd SoundSink × List (Deed SoundSink) :=
  (onto {}).run (.begin (.write [97]) :: List.replicate accesses (.turn 0) ++
    [.begin (.head 1 Status.gone {}), .turn 1, .turn 1, .turn 1, .turn 0])

/-- **A closing can overtake a write.**  After two accesses the data has its number, the write
returns as if it were sent, and nothing is posted.  After three it is posted by a closed channel.
And there is a moment at which the channel has closed and nobody has been told. -/
theorem Crowd.overtaken_write :
    ((overtaken 2).1.tasks = [none, none] ∧
      (overtaken 2).2.filterMap Deed.numbered? = [(1, [97])] ∧
      (overtaken 2).2.filterMap (·.outcome.result) = [.ok 1] ∧
      posts (effects (overtaken 2).2) = []) ∧
    ((overtaken 3).1.tasks = [none, none] ∧
      ∃ d ∈ (overtaken 3).2, d.before.isOpen = false ∧
        (posts d.outcome.effects).map entry = [(1, [97])]) ∧
    ∃ d ∈ (overtaken 2).2, d.before.isOpen = false ∧ d.before.closer = false := by
  refine ⟨⟨rfl, rfl, rfl, rfl⟩, ⟨rfl, ?_⟩, ?_⟩
  · exact ⟨_, List.mem_of_getElem? (i := 6) rfl, rfl, rfl⟩
  · exact ⟨_, List.mem_of_getElem? (i := 4) rfl, rfl, rfl⟩

end Channel
end Tunnel
end PollTunnel
