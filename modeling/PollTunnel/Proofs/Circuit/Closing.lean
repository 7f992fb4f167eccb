import PollTunnel.Proofs.Circuit.Near

/-!
# A channel closes once

A channel is closed from this side, by an answer, or because a request, an answer or the device
fails.  Whichever comes first closes it, and the others find it closed.  A step that finds a channel
open leaves it open or closes it, and one that finds it closed does nothing (`Comes.of_closed`).  So
closings and being open balance in every run (`closings_run`).

Only a closing from this side tells the far end, which would otherwise be made to end a session that
may be another's by then (`disconnects_step`).

A body that arrives after the closing still counts, if the head of its response arrived before
(`mem_pending_run`).

An event is one step here.  What holds when a write and a closing are under way at the same time is
in `PollTunnel.Proofs.Circuit.Overlap`.
-/

set_option autoImplicit false

namespace PollTunnel
namespace Tunnel
namespace Channel

variable {σ : Type}

/-! ## What is counted -/

/-- The payloads that are posted, in order. -/
def posts (effects : List Effect) : List Payload := (started effects).filterMap (·.2.payload?)

/-- How often the channel closes. -/
def closings (effects : List Effect) : Nat :=
  effects.countP fun
    | .closed => true
    | .send _ _ => false

/-- The requests that end the session at the far end. -/
def disconnects (effects : List Effect) : List Nat :=
  ((started effects).filter (·.2 = .disconnect)).map (·.1)

/-- The data that an event makes a channel take.  Of an empty write there is none to take, and a
write that fails takes none. -/
def takes? (c : Channel σ) : Event σ → Option Bytes
  | .write data =>
    if data = [] then none
    else
      match (c.write data).1 with
      | .ok _ => some data
      | .error _ => none
  | _ => none

theorem posts_append (a b : List Effect) : posts (a ++ b) = posts a ++ posts b := by
  simp [posts, started]

theorem closings_append (a b : List Effect) : closings (a ++ b) = closings a + closings b :=
  List.countP_append

theorem disconnects_append (a b : List Effect) :
    disconnects (a ++ b) = disconnects a ++ disconnects b := by
  simp [disconnects, started]

/-- The data that events make a channel take, in order. -/
def taken [Sink σ] (c : Channel σ) : List (Event σ) → List Bytes
  | [] => []
  | event :: rest => (c.takes? event).toList ++ taken (c.step event).1 rest

/-! ## One event -/

section Comes

variable {n : Counts} {event : Event σ} {o : Outcome σ}

/-- **A closed channel does nothing**, and stays closed. -/
theorem Comes.of_closed (h : Comes n event o) (hclosed : n.isOpen = false) :
    o.1.isOpen = false ∧ o.2 = [] := by
  cases h with
  | nothing hcounts => exact ⟨(isOpen_of_counts hcounts).trans hclosed, rfl⟩
  | spent _ hopen | post _ hopen | poll hopen | stop _ hopen | leave _ hopen =>
    rw [hclosed] at hopen
    cases hopen

/-- An event closes the channel once, if it does. -/
theorem Comes.closings (h : Comes n event o) :
    closings o.2 + o.1.isOpen.toNat = n.isOpen.toNat := by
  cases h with
  | nothing hcounts =>
    rw [isOpen_of_counts hcounts]
    exact Nat.zero_add _
  | spent _ hopen _ hcounts | post _ hopen _ hcounts | poll hopen hcounts | stop _ hopen hcounts
  | leave _ hopen hcounts =>
    rw [isOpen_of_counts hcounts, hopen]
    rfl

/-- The event that closes the channel says so. -/
theorem Comes.closed_mem_iff (h : Comes n event o) :
    .closed ∈ o.2 ↔ n.isOpen = true ∧ o.1.isOpen = false := by
  cases h with
  | nothing hcounts =>
    rw [isOpen_of_counts hcounts]
    cases n.isOpen <;> simp
  | spent _ hopen _ hcounts | post _ hopen _ hcounts | poll hopen hcounts | stop _ hopen hcounts
  | leave _ hopen hcounts => simp [hopen, isOpen_of_counts hcounts]

/-- The far end is told only when the channel is closed from this side. -/
theorem Comes.disconnects (h : Comes n event o) :
    (disconnects o.2).length ≤ Channel.closings o.2 ∧
      (disconnects o.2 ≠ [] → event = .close ∧ n.isOpen = true) := by
  cases h with
  | nothing | spent | post | poll | stop => exact ⟨Nat.zero_le _, fun h => absurd rfl h⟩
  | leave hevent hopen => exact ⟨Nat.le_refl _, fun _ => ⟨hevent, hopen⟩⟩

end Comes

variable [Sink σ]

/-- **The far end is told when the channel is closed from this side**, and only then. -/
theorem disconnects_step (c : Channel σ) (event : Event σ) :
    disconnects (c.step event).2 ≠ [] ↔ event = .close ∧ c.isOpen = true := by
  refine ⟨(step_comes c event).disconnects.2, ?_⟩
  rintro ⟨rfl, hopen⟩
  rw [step, close_of_isOpen hopen]
  exact List.cons_ne_nil _ _

/-- What an event does to the numbers: nothing, count up in vain, or give the next one to the
payload that is posted. -/
theorem numbers_step (c : Channel σ) (event : Event σ) :
    (posts (c.step event).2 = [] ∧ (c.step event).1.written = c.written) ∨
      (posts (c.step event).2 = [] ∧ maxSequence ≤ c.written ∧
        (c.step event).1.written = c.written + 1) ∨
      ∃ p, posts (c.step event).2 = [p] ∧ p.sequence = c.written + 1 ∧
        (c.step event).1.written = c.written + 1 := by
  have hcomes := step_comes c event
  generalize c.step event = o at hcomes
  cases hcomes with
  | nothing hcounts | poll _ hcounts | stop _ _ hcounts | leave _ _ hcounts =>
    exact Or.inl ⟨rfl, congrArg Counts.written hcounts⟩
  | spent _ _ hspent hcounts =>
    exact Or.inr (Or.inl ⟨rfl, Nat.le_of_lt_succ hspent, congrArg Counts.written hcounts⟩)
  | @post _ p _ _ hsequence hcounts =>
    exact Or.inr (Or.inr ⟨p, rfl, hsequence, congrArg Counts.written hcounts⟩)

/-- What an event makes the channel take is what it makes it post. -/
theorem data_posts_step (c : Channel σ) (event : Event σ) :
    (posts (c.step event).2).map (·.data) = (c.takes? event).toList := by
  cases event with
  | write data =>
    rw [step, takes?, write]
    split
    · rename_i hopen
      split
      · rfl
      · cases hmake : Payload.make c.number.written data with
        | error e => rfl
        | ok p =>
          dsimp only
          rw [launch, if_pos (show c.number.isOpen = true from hopen)]
          exact congrArg (fun data => [data]) (Payload.make_eq_ok_iff.1 hmake).2
    · split <;> rfl
  | _ =>
    rw [posts, (step_quiet c fun _ heq => by cases heq).2]
    rfl

/-- Only a body makes the channel write anything, if the head of its response was taken. -/
theorem exists_pending_of_written {c : Channel σ} {event : Event σ}
    (h : (c.step event).1.forwarder.outlet.written ≠ c.forwarder.outlet.written) :
    ∃ request content headers, event = .body request content ∧
      (request, headers) ∈ c.pending := by
  rcases forwarder_step_cases c event with
    ⟨request, bytes, headers, _, hevent, hlookup, -⟩ | hsame
  · exact ⟨request, .ok bytes, headers, hevent, mem_of_lookup hlookup⟩
  · exact absurd hsame.written h

/-! ## Events one after another -/

@[simp] theorem run_cons (c : Channel σ) (event : Event σ) (rest : List (Event σ)) :
    c.run (event :: rest) = (((c.step event).1.run rest).1,
      (c.step event).2 ++ ((c.step event).1.run rest).2) := rfl

theorem run_of_closed {c : Channel σ} (h : c.isOpen = false) (events : List (Event σ)) :
    (c.run events).1.isOpen = false ∧ (c.run events).2 = [] := by
  induction events generalizing c with
  | nil => exact ⟨h, rfl⟩
  | cons event rest ih =>
    obtain ⟨hclosed, hnone⟩ := (step_comes c event).of_closed h
    obtain ⟨hclosed', hnone'⟩ := ih hclosed
    refine ⟨hclosed', ?_⟩
    rw [run_cons, hnone, hnone', List.append_nil]

/-- **Closing and being open balance.** -/
theorem closings_run (c : Channel σ) (events : List (Event σ)) :
    closings (c.run events).2 + (c.run events).1.isOpen.toNat = c.isOpen.toNat := by
  induction events generalizing c with
  | nil => exact Nat.zero_add _
  | cons event rest ih =>
    have hstep : _ = c.isOpen.toNat := (step_comes c event).closings
    have hrest := ih (c.step event).1
    rw [run_cons, closings_append]
    dsimp only
    omega

theorem length_disconnects_run (c : Channel σ) (events : List (Event σ)) :
    (disconnects (c.run events).2).length ≤ closings (c.run events).2 := by
  induction events generalizing c with
  | nil => exact Nat.le_refl _
  | cons event rest ih =>
    rw [run_cons, disconnects_append, closings_append, List.length_append]
    exact Nat.add_le_add (step_comes c event).disconnects.1 (ih _)

theorem disconnects_run (c : Channel σ) (events : List (Event σ)) :
    disconnects (c.run events).2 ≠ [] ↔
      ∃ before after, events = before ++ .close :: after ∧ (c.run before).1.isOpen = true := by
  induction events generalizing c with
  | nil =>
    refine ⟨fun h => absurd rfl h, ?_⟩
    rintro ⟨before, after, hevents, -⟩
    exact absurd hevents.symm (by simp)
  | cons event rest ih =>
    rw [run_cons, disconnects_append, Ne, List.append_eq_nil_iff, Classical.not_and_iff_not_or_not,
      ← Ne, ← Ne, disconnects_step, ih]
    constructor
    · rintro (⟨rfl, hopen⟩ | ⟨before, after, rfl, hopen⟩)
      · exact ⟨[], rest, rfl, hopen⟩
      · exact ⟨event :: before, after, rfl, hopen⟩
    · rintro ⟨before, after, hevents, hopen⟩
      cases before with
      | nil =>
        obtain ⟨rfl, -⟩ := List.cons.inj hevents
        exact Or.inl ⟨rfl, hopen⟩
      | cons first before =>
        obtain ⟨rfl, rfl⟩ := List.cons.inj hevents
        exact Or.inr ⟨before, after, rfl, hopen⟩

theorem data_posts_run (c : Channel σ) (events : List (Event σ)) :
    (posts (c.run events).2).map (·.data) = c.taken events := by
  induction events generalizing c with
  | nil => rfl
  | cons event rest ih =>
    rw [run_cons, posts_append, List.map_append, data_posts_step, ih]
    rfl

/-- **Payloads are numbered one after another**, and one whose number would be too large leaves none
for those that come later. -/
theorem follows_posts (c : Channel σ) (events : List (Event σ)) :
    Forwarder.Follows c.written (posts (c.run events).2) := by
  induction events generalizing c with
  | nil => exact .nil _
  | cons event rest ih =>
    have hrest := ih (c.step event).1
    rw [run_cons, posts_append]
    rcases numbers_step c event with
      ⟨hposts, hwritten⟩ | ⟨hposts, hspent, hwritten⟩ | ⟨p, hposts, hsequence, hwritten⟩ <;>
      rw [hwritten] at hrest <;> rw [hposts]
    · exact hrest
    · rw [hrest.eq_nil (by omega)]
      exact .nil _
    · exact .cons hsequence (hsequence ▸ hrest)

/-- The numbers are counted up with the payloads, until they are used up. -/
theorem written_run {c : Channel σ} (h : c.written ≤ maxSequence) (events : List (Event σ)) :
    (c.run events).1.written = c.written + (posts (c.run events).2).length ∨
      c.written + (posts (c.run events).2).length = maxSequence := by
  induction events generalizing c with
  | nil => exact Or.inl rfl
  | cons event rest ih =>
    have hrest := @ih (c.step event).1
    have hfollows := follows_posts (c.step event).1 rest
    rw [run_cons, posts_append, List.length_append]
    rcases numbers_step c event with
      ⟨hposts, hwritten⟩ | ⟨hposts, hspent, hwritten⟩ | ⟨p, hposts, hsequence, hwritten⟩ <;>
      rw [hwritten] at hrest hfollows <;> rw [hposts]
    · rw [List.length_nil, Nat.zero_add]
      exact hrest h
    · rw [hfollows.eq_nil (by omega)]
      exact Or.inr (Nat.le_antisymm h hspent)
    · have hle := p.sequence_le
      have := hrest (by omega)
      rw [List.length_singleton]
      dsimp only
      omega

/-- A body that is waited for belongs to a response whose head the channel took while it was
open. -/
theorem mem_pending_run {c : Channel σ} {events : List (Event σ)} {entry : Nat × Headers}
    (h : entry ∈ (c.run events).1.pending) :
    entry ∈ c.pending ∨ ∃ status before after,
      events = before ++ .head entry.1 status entry.2 :: after ∧
        (c.run before).1.isOpen = true := by
  induction events generalizing c with
  | nil => exact Or.inl h
  | cons event rest ih =>
    rcases ih (c := (c.step event).1) h with h | ⟨status, before, after, rfl, hopen⟩
    · rcases mem_pending_step h with ⟨h, -⟩ | ⟨status, rfl⟩
      · exact Or.inl h
      · cases hopen : c.isOpen with
        | true => exact Or.inr ⟨status, [], rest, rfl, hopen⟩
        | false =>
          rw [show c.step (.head entry.1 status entry.2) = (c, []) from
            if_neg (by simp [hopen])] at h
          exact Or.inl h
    · exact Or.inr ⟨status, event :: before, after, rfl, hopen⟩

/-! ## From the beginning -/

/-- A channel onto a device after some events, with all that it has caused since it was opened. -/
def lifetime (device : σ) (events : List (Event σ)) : Outcome σ :=
  (((begin device).1.run events).1, (begin device).2 ++ ((begin device).1.run events).2)

/-- **What a channel has done**, open or closed, when such events have happened to it. -/
structure ClosesOnce (device : σ) (events : List (Event σ)) (c : Channel σ)
    (effects : List Effect) : Prop where
  /-- The payloads carry what was taken, in order. -/
  posted : (posts effects).map (·.data) = (begin device).1.taken events
  /-- They are numbered from one on without a gap. -/
  numbered : (posts effects).map (·.sequence) = List.range' 1 (posts effects).length
  /-- A write of which nothing is taken changes nothing, unless all numbers are used up. -/
  unnumbered : ∀ data, c.takes? (.write data) = none →
    (c.write data).2 = (c, []) ∨ (posts effects).length = maxSequence
  /-- The channel has closed once if it is closed, and not yet if it is open. -/
  once : closings effects + c.isOpen.toNat = 1
  /-- It says so in the step in which it closes, and in no other. -/
  signalled : ∀ event, .closed ∈ (c.step event).2 ↔
    c.isOpen = true ∧ (c.step event).1.isOpen = false
  /-- Once closed it stays closed, and starts no request of any kind. -/
  final : c.isOpen = false → ∀ more, (c.run more).1.isOpen = false ∧ (c.run more).2 = []
  /-- Then every write fails, an empty one as well. -/
  refuses : c.isOpen = false → ∀ data, c.write data = (.error .channelClosed, c, [])
  /-- What the device takes is the body of a response whose head came when the channel was open: a
  response that comes after the closing writes nothing. -/
  begun : ∀ event,
    (c.step event).1.forwarder.outlet.written ≠ c.forwarder.outlet.written →
      ∃ request content status headers before after, event = .body request content ∧
        events = before ++ .head request status headers :: after ∧
          (lifetime device before).1.isOpen = true
  /-- The far end is told once at most that the session is to end. -/
  atMostOnce : (disconnects effects).length ≤ 1
  /-- It is told if the channel was closed from this side when it was still open, and only then. -/
  told : disconnects effects ≠ [] ↔ ∃ before after,
    events = before ++ .close :: after ∧ (lifetime device before).1.isOpen = true

/-- **Closing is final and happens once**, whatever closes the channel and whatever is under way
then. -/
theorem lifetime_closesOnce (device : σ) (events : List (Event σ)) :
    ClosesOnce device events (lifetime device events).1 (lifetime device events).2 := by
  have hfollows := follows_posts (begin device).1 events
  have hbalance := closings_run (begin device).1 events
  refine
    { posted := data_posts_run _ events
      numbered := hfollows
      unnumbered := fun data hnone => ?_
      once := ?_
      signalled := fun event => ?_
      final := fun hclosed more => run_of_closed hclosed more
      refuses := fun hclosed data => ?_
      begun := fun event hne => ?_
      atMostOnce := ?_
      told := disconnects_run _ events }
  · have hnothing := data_posts_step (lifetime device events).1 (.write data)
    rw [hnone] at hnothing
    rcases write_cases (lifetime device events).1 data with
      ⟨h, -⟩ | ⟨-, hspent, -⟩ | ⟨p, -, -, -, h⟩
    · exact Or.inl h
    · have hle := hfollows.add_length_le (Nat.zero_le _)
      have hwritten := written_run (c := (begin device).1) (Nat.zero_le _) events
      rw [show (begin device).1.written = 0 from rfl, Nat.zero_add] at hle hwritten
      change maxSequence < ((begin device).1.run events).1.written + 1 at hspent
      refine Or.inr (Nat.le_antisymm hle ?_)
      change maxSequence ≤ (posts ((begin device).1.run events).2).length
      omega
    · rw [h] at hnothing
      cases hnothing
  · exact hbalance
  · exact (step_comes _ event).closed_mem_iff
  · exact if_neg (by simp [hclosed])
  · obtain ⟨request, content, headers, rfl, hpending⟩ := exists_pending_of_written hne
    rcases mem_pending_run hpending with hpending | ⟨status, before, after, hevents, hopen⟩
    · exact absurd hpending List.not_mem_nil
    · exact ⟨request, content, status, headers, before, after, rfl, hevents, hopen⟩
  · have hle := length_disconnects_run (begin device).1 events
    have hone : (begin device).1.isOpen.toNat = 1 := rfl
    exact Nat.le_trans hle (by omega)

end Channel
end Tunnel
end PollTunnel
