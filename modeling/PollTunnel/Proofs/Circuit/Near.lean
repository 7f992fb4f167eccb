import PollTunnel.Proofs.Delivery.Stream
import PollTunnel.Tunnel.Channel

/-!
# What a channel posts and what it writes

What an event comes to in requests is said once (`step_comes`).  Only a write posts a payload, and
it posts the next number (`write_cases`).  Every other event starts one request at most, and that
one is empty (`step_quiet`).

Only a complete response makes a channel pass something on to its device, namely the payload that it
carries (`forwarder_step_cases`).
-/

set_option autoImplicit false

namespace PollTunnel
namespace Tunnel
namespace Channel

variable {σ : Type}

/-- The payload that a request carries. -/
def Kind.payload? : Kind → Option Payload
  | .post p => some p
  | .poll | .disconnect => none

/-- The requests that are started, in order. -/
def started (effects : List Effect) : List (Nat × Kind) :=
  effects.filterMap fun
    | .send request kind => some (request, kind)
    | .closed => none

/-! ## Requests -/

/-- What requests and numbers depend on. -/
structure Counts where
  isOpen : Bool
  /-- How many payloads have been numbered. -/
  written : Nat
  /-- How many requests have been started. -/
  requests : Nat

def counts (c : Channel σ) : Counts := ⟨c.isOpen, c.written, c.requests⟩

theorem isOpen_of_counts {c : Channel σ} {n : Counts} (h : c.counts = n) : c.isOpen = n.isOpen :=
  congrArg Counts.isOpen h

/-- What an event can come to, in requests and in numbers. -/
inductive Comes (n : Counts) (event : Event σ) : Outcome σ → Prop where
  /-- Nothing is started, and the channel is as open as it was. -/
  | nothing {d : Channel σ} (hcounts : d.counts = n) : Comes n event (d, [])
  /-- A write finds no number for its data any more. -/
  | spent {d : Channel σ} {data : Bytes} (hevent : event = .write data) (hopen : n.isOpen = true)
      (hspent : maxSequence < n.written + 1)
      (hcounts : d.counts = { n with written := n.written + 1 }) : Comes n event (d, [])
  /-- A write posts its data under the next number. -/
  | post {d : Channel σ} {p : Payload} (hevent : event = .write p.data) (hopen : n.isOpen = true)
      (hsequence : p.sequence = n.written + 1)
      (hcounts : d.counts = { n with written := n.written + 1, requests := n.requests + 1 }) :
      Comes n event (d, [.send (n.requests + 1) (.post p)])
  /-- A poll is started. -/
  | poll {d : Channel σ} (hopen : n.isOpen = true)
      (hcounts : d.counts = { n with requests := n.requests + 1 }) :
      Comes n event (d, [.send (n.requests + 1) .poll])
  /-- The channel closes without a word to the far end. -/
  | stop {d : Channel σ} (hother : event ≠ .close) (hopen : n.isOpen = true)
      (hcounts : d.counts = { n with isOpen := false }) : Comes n event (d, [.closed])
  /-- The channel is closed from this side, and tells the far end. -/
  | leave {d : Channel σ} (hevent : event = .close) (hopen : n.isOpen = true)
      (hcounts : d.counts = { n with isOpen := false, requests := n.requests + 1 }) :
      Comes n event (d, [.closed, .send (n.requests + 1) .disconnect])

/-- A channel that is closed stays so. -/
theorem Comes.isOpen {n : Counts} {event : Event σ} {o : Outcome σ} (h : Comes n event o)
    (hafter : o.1.isOpen = true) : n.isOpen = true := by
  cases h with
  | nothing hcounts => exact (isOpen_of_counts hcounts).symm.trans hafter
  | spent _ hopen | post _ hopen | poll hopen | stop _ hopen | leave _ hopen => exact hopen

theorem comes_poll (c : Channel σ) (event : Event σ) : Comes c.counts event c.poll := by
  rw [Channel.poll, launch]
  split
  · rename_i hopen
    exact .poll hopen rfl
  · exact .nothing rfl

theorem comes_stop (c : Channel σ) {event : Event σ} (h : event ≠ .close) :
    Comes c.counts event c.stop := by
  rw [Channel.stop]
  split
  · rename_i hopen
    exact .stop h hopen rfl
  · exact .nothing rfl

theorem close_of_isOpen {c : Channel σ} (h : c.isOpen = true) :
    c.close = ({ c with isOpen := false, closer := true, requests := c.requests + 1 },
      [.closed, .send (c.requests + 1) .disconnect]) := by
  rw [close, if_pos h]
  rfl

theorem comes_close (c : Channel σ) : Comes c.counts .close c.close := by
  cases hopen : c.isOpen with
  | true =>
    rw [close_of_isOpen hopen]
    exact .leave rfl hopen rfl
  | false =>
    rw [close, if_neg (by simp [hopen])]
    exact .nothing rfl

/-- **What a write does**: nothing, count up in vain, or post the data under the next number. -/
theorem write_cases [Sink σ] (c : Channel σ) (data : Bytes) :
    (c.step (.write data) = (c, []) ∧ (c.isOpen = false ∨ data = [])) ∨
    (c.isOpen = true ∧ maxSequence < c.written + 1 ∧
      c.step (.write data) = (c.number, [])) ∨
    (∃ p : Payload, c.isOpen = true ∧ p.sequence = c.written + 1 ∧ p.data = data ∧
      c.step (.write data) = c.number.start (.post p)) := by
  rw [step, write]
  split
  · rename_i hopen
    split
    · rename_i hdata
      exact Or.inl ⟨rfl, Or.inr hdata⟩
    · cases hmake : Payload.make c.number.written data with
      | error e =>
        refine Or.inr (Or.inl ⟨hopen, ?_, rfl⟩)
        rw [Payload.make] at hmake
        split at hmake
        · cases hmake
        · rename_i hlarge
          exact Nat.lt_of_not_le fun hle => hlarge ⟨Nat.succ_pos _, hle⟩
      | ok p =>
        obtain ⟨hsequence, hp⟩ := Payload.make_eq_ok_iff.1 hmake
        exact Or.inr (Or.inr ⟨p, hopen, hsequence, hp, if_pos hopen⟩)
  · rename_i hopen
    exact Or.inl ⟨rfl, Or.inl (by simpa using hopen)⟩

theorem comes_write [Sink σ] (c : Channel σ) (data : Bytes) :
    Comes c.counts (.write data) (c.step (.write data)) := by
  rcases write_cases c data with ⟨h, -⟩ | ⟨hopen, hspent, h⟩ | ⟨p, hopen, hsequence, rfl, h⟩ <;>
    rw [h]
  · exact .nothing rfl
  · exact .spent rfl hopen hspent rfl
  · exact .post rfl hopen hsequence rfl

theorem comes_follow (c : Channel σ) {event : Event σ} (h : event ≠ .close) (sequel : Sequel) :
    Comes c.counts event (c.follow sequel) := by
  cases sequel with
  | nothing => exact .nothing rfl
  | poll => exact comes_poll c event
  | stop => exact comes_stop c h

theorem counts_takeHead (request : Nat) (status : Status) (headers : Headers) (c : Channel σ) :
    (c.takeHead request status headers).1.counts = c.counts := by
  rw [takeHead]
  split <;> rfl

theorem comes_head (c : Channel σ) (request : Nat) (status : Status) (headers : Headers) :
    Comes c.counts (.head request status headers) (c.head request status headers) := by
  rw [head]
  split
  · rw [← counts_takeHead request status headers c]
    exact comes_follow _ (by nofun) _
  · exact .nothing rfl

theorem counts_receive [Sink σ] (m : Message) (c : Channel σ) :
    (c.receive m).2.counts = c.counts := by
  rw [receive]
  split <;> rfl

theorem counts_takeBody [Sink σ] (request : Nat) (content : Except IoError Bytes)
    (c : Channel σ) : (c.takeBody request content).1.counts = c.counts := by
  rw [takeBody]
  split
  · rfl
  · dsimp only
    split
    · rfl
    · split
      · rfl
      · split
        · rename_i heq
          exact congrArg (·.2.counts) heq ▸ counts_receive _ _
        · rename_i heq
          exact congrArg (·.2.counts) heq ▸ counts_receive _ _

theorem comes_body [Sink σ] (c : Channel σ) (request : Nat) (content : Except IoError Bytes) :
    Comes c.counts (.body request content) (c.body request content) := by
  rw [body, ← counts_takeBody request content c]
  exact comes_follow _ (by nofun) _

/-- **What an event comes to**, in requests and in numbers. -/
theorem step_comes [Sink σ] (c : Channel σ) (event : Event σ) :
    Comes c.counts event (c.step event) := by
  cases event with
  | write data => exact comes_write c data
  | close => exact comes_close c
  | head request status headers => exact comes_head c request status headers
  | body request content => exact comes_body c request content
  | fail request => exact comes_stop c nofun
  | device device => exact .nothing rfl

/-- Only a write numbers a payload or posts one. -/
theorem step_quiet [Sink σ] (c : Channel σ) {event : Event σ} (h : ∀ data, event ≠ .write data) :
    (c.step event).1.written = c.written ∧
      (started (c.step event).2).filterMap (·.2.payload?) = [] := by
  have hcomes := step_comes c event
  generalize c.step event = o at hcomes
  cases hcomes with
  | nothing hcounts | poll _ hcounts | stop _ _ hcounts | leave _ _ hcounts =>
    exact ⟨congrArg Counts.written hcounts, rfl⟩
  | spent hevent | post hevent => exact absurd hevent (h _)

/-- An event starts one request at most, under the next number. -/
theorem started_step [Sink σ] (c : Channel σ) (event : Event σ) :
    (started (c.step event).2 = [] ∧ (c.step event).1.requests = c.requests) ∨
      ∃ kind, started (c.step event).2 = [(c.requests + 1, kind)] ∧
        (c.step event).1.requests = c.requests + 1 := by
  have hcomes := step_comes c event
  generalize c.step event = o at hcomes
  cases hcomes with
  | nothing hcounts | spent _ _ _ hcounts | stop _ _ hcounts =>
    exact Or.inl ⟨rfl, congrArg Counts.requests hcounts⟩
  | post _ _ _ hcounts | poll _ hcounts | leave _ _ hcounts =>
    exact Or.inr ⟨_, rfl, congrArg Counts.requests hcounts⟩

/-! ## Responses -/

theorem forwarder_follow (c : Channel σ) (sequel : Sequel) :
    (c.follow sequel).1.forwarder = c.forwarder := by
  cases sequel with
  | nothing => rfl
  | poll =>
    rw [follow, poll, launch]
    split <;> rfl
  | stop =>
    rw [follow, stop]
    split <;> rfl

theorem forwarder_takeHead (request : Nat) (status : Status) (headers : Headers)
    (c : Channel σ) : (c.takeHead request status headers).1.forwarder = c.forwarder := by
  rw [takeHead]
  split <;> rfl

/-- Nothing is passed on but the payload of a complete response. -/
theorem forwarder_step_cases [Sink σ] (c : Channel σ) (event : Event σ) :
    (∃ request bytes headers p, event = .body request (.ok bytes) ∧
      c.pending.lookup request = some headers ∧
      Received.ofMessage { headers, body := bytes } = .ok (.payload p) ∧
      (c.step event).1.forwarder = (c.forwarder.forward p).2) ∨
    c.forwarder.SameStream (c.step event).1.forwarder := by
  cases event with
  | write data =>
    rcases write_cases c data with ⟨h, -⟩ | ⟨-, -, h⟩ | ⟨p, -, -, -, h⟩ <;>
      rw [h] <;> exact Or.inr (.refl _)
  | close =>
    refine Or.inr (.of_eq ?_)
    rw [step, close]
    split <;> rfl
  | head request status headers =>
    refine Or.inr (.of_eq ?_)
    rw [step, head]
    split
    · exact (forwarder_follow _ _).trans (forwarder_takeHead request status headers c)
    · rfl
  | body request content =>
    rw [step, body, takeBody]
    cases hlookup : c.pending.lookup request with
    | none => exact Or.inr (.of_eq (forwarder_follow _ _))
    | some headers =>
      cases content with
      | error cause => exact Or.inr (.of_eq (forwarder_follow _ _))
      | ok bytes =>
        dsimp only
        split
        · exact Or.inr (.of_eq (forwarder_follow _ _))
        · rw [receive]
          cases hreceived : Received.ofMessage { headers, body := bytes } with
          | error e => exact Or.inr (.of_eq (forwarder_follow _ _))
          | ok received =>
            cases received with
            | noPayload => exact Or.inr (.of_eq (forwarder_follow _ _))
            | payload p =>
              refine Or.inl ⟨request, bytes, headers, p, rfl, hlookup, hreceived, ?_⟩
              dsimp only
              cases (c.forwarder.forward p).1 with
              | error e => exact forwarder_follow _ _
              | ok _ => exact forwarder_follow _ _
  | fail request => exact Or.inr (.of_eq (forwarder_follow c .stop))
  | device device => exact Or.inr ⟨rfl, rfl, rfl⟩

theorem pending_follow (c : Channel σ) (sequel : Sequel) :
    (c.follow sequel).1.pending = c.pending := by
  cases sequel with
  | nothing => rfl
  | poll =>
    rw [follow, poll, launch]
    split <;> rfl
  | stop =>
    rw [follow, stop]
    split <;> rfl

theorem pending_close (c : Channel σ) : c.close.1.pending = c.pending := by
  rw [close]
  split <;> rfl

theorem pending_receive [Sink σ] (m : Message) (c : Channel σ) :
    (c.receive m).2.pending = c.pending := by
  rw [receive]
  split <;> rfl

/-- A body is waited for once. -/
theorem pending_takeBody [Sink σ] (c : Channel σ) (request : Nat)
    (content : Except IoError Bytes) :
    (c.takeBody request content).1.pending = c.pending.filter (·.1 ≠ request) := by
  rw [takeBody]
  split
  · rename_i hnone
    refine (List.filter_eq_self.2 fun entry hentry => ?_).symm
    have hne := List.lookup_eq_none_iff.1 hnone entry hentry
    exact decide_eq_true fun heq => bne_iff_ne.1 hne heq.symm
  · dsimp only
    split
    · rfl
    · split
      · rfl
      · split
        · rename_i heq
          rw [← congrArg (·.2.pending) heq, pending_receive]
        · rename_i heq
          rw [← congrArg (·.2.pending) heq, pending_receive]

theorem pending_body [Sink σ] (c : Channel σ) (request : Nat) (content : Except IoError Bytes) :
    (c.body request content).1.pending = c.pending.filter (·.1 ≠ request) :=
  (pending_follow _ _).trans (pending_takeBody c request content)

/-- A response is pending once its head was taken, and until its body comes. -/
theorem mem_pending_step [Sink σ] {c : Channel σ} {event : Event σ} {entry : Nat × Headers}
    (h : entry ∈ (c.step event).1.pending) :
    (entry ∈ c.pending ∧ ∀ request content, event = .body request content → entry.1 ≠ request) ∨
      ∃ status, event = .head entry.1 status entry.2 := by
  cases event with
  | write data =>
    refine Or.inl ⟨?_, nofun⟩
    rcases write_cases c data with ⟨heq, -⟩ | ⟨-, -, heq⟩ | ⟨p, -, -, -, heq⟩ <;>
      rw [heq] at h <;> exact h
  | close => exact Or.inl ⟨pending_close c ▸ h, nofun⟩
  | head request status headers =>
    rw [step, head] at h
    split at h
    · rw [pending_follow, takeHead] at h
      split at h
      · rcases List.mem_append.1 h with h | h
        · exact Or.inl ⟨h, nofun⟩
        · rw [List.mem_singleton.1 h]
          exact Or.inr ⟨status, rfl⟩
      · exact Or.inl ⟨h, nofun⟩
    · exact Or.inl ⟨h, nofun⟩
  | body request content =>
    rw [step, pending_body, List.mem_filter] at h
    refine Or.inl ⟨h.1, ?_⟩
    rintro _ _ heq
    cases heq
    simpa using h.2
  | fail request => exact Or.inl ⟨pending_follow c .stop ▸ h, nofun⟩
  | device device => exact Or.inl ⟨h, nofun⟩

end Channel
end Tunnel
end PollTunnel
