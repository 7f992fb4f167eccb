import PollTunnel.Proofs.Circuit.Basic

/-!
# The numbers under way

A request is somewhere between the channel and its answer: under way to the server, on its way to a
queue, waiting, answered, or with the head of its answer delivered (`Circuit.shares`).  It is in one
such place at most, and numbers that the channel has not used are in none (`Circuit.Numbered`).

This is what makes a body belong to the head that was delivered before it.
-/

set_option autoImplicit false

namespace PollTunnel
namespace Tunnel
namespace Circuit

variable {σ τ : Type}

/-- In how many places a number is. -/
def shares (c : Circuit σ τ) (number : Nat) : Nat :=
  (c.requests.map (·.1)).count number + (Server.numbers c.server.arriving).count number +
    c.server.waiting.count number + (c.answers.map (·.1)).count number +
    (c.bodies.map (·.1)).count number

/-- Every number is in one place at most. -/
structure Numbered (c : Circuit σ τ) : Prop where
  tidy : ∀ x ∈ c.server.sessions, x.Tidy
  once : ∀ number, c.shares number ≤ 1
  /-- Numbers that were not used are nowhere. -/
  fresh : ∀ number, c.channel.requests < number → c.shares number = 0
  /-- Where the channel waits for a body, that of the same answer is under way. -/
  pending : ∀ entry ∈ c.channel.pending,
    ∃ answer, (entry.1, answer) ∈ c.bodies ∧ entry.2 = answer.response.headers

/-! ## Messages that are taken out -/

/-- A message that is taken out takes its number with it. -/
theorem count_without {α : Type} {messages : List (Nat × α)} {m : Nat} {a : α}
    (h : messages.lookup m = some a) (number : Nat) :
    ((without messages m).map (·.1)).count number + [m].count number ≤
      (messages.map (·.1)).count number := by
  rw [← List.filterMap_eq_map]
  exact count_filterMap_filter_ne (k := Prod.fst) (mem_of_lookup h) number

theorem count_taken_le (effects : List Server.Effect) (number : Nat) :
    ((taken effects).map (·.1)).count number ≤ (Server.answersTo number effects).length := by
  induction effects with
  | nil => exact Nat.le_refl _
  | cons effect effects ih =>
    rw [taken, Server.answersTo] at ih ⊢
    rw [List.filterMap_cons, List.filterMap_cons]
    cases effect with
    | answer m answer present =>
      by_cases hm : m = number <;> cases present <;> simp [hm] <;> omega
    | _ => exact ih

/-! ## Steps -/

theorem shares_near [Sink σ] (c : Circuit σ τ) (event : Channel.Event σ) :
    ((c.near event).channel.requests = c.channel.requests ∧
      ∀ number, (c.near event).shares number = c.shares number) ∨
    ((c.near event).channel.requests = c.channel.requests + 1 ∧
      ∀ number, (c.near event).shares number =
        c.shares number + [c.channel.requests + 1].count number) := by
  rcases Channel.started_step c.channel event with ⟨hstarted, hrequests⟩ |
    ⟨kind, hstarted, hrequests⟩
  · refine Or.inl ⟨hrequests, fun number => ?_⟩
    simp only [near, shares, hstarted, List.append_nil]
  · refine Or.inr ⟨hrequests, fun number => ?_⟩
    simp only [near, shares, hstarted, List.map_append, List.count_append, List.map_cons,
      List.map_nil]
    omega

theorem shares_far [Sink τ] {c : Circuit σ τ} (h : ∀ x ∈ c.server.sessions, x.Tidy)
    (event : Server.Event τ) (number : Nat) :
    (c.far event).shares number ≤ c.shares number + event.arrival.count number := by
  have hbalance := Server.balance_step h event number
  have htaken := count_taken_le (c.server.step event).2 number
  simp only [far, shares, List.map_append, List.count_append]
  omega

/-- A step of the channel, before which messages may have been moved. -/
theorem numbered_near [Sink σ] {c : Circuit σ τ} {event : Channel.Event σ}
    (htidy : ∀ x ∈ c.server.sessions, x.Tidy) (honce : ∀ number, c.shares number ≤ 1)
    (hfresh : ∀ number, c.channel.requests < number → c.shares number = 0)
    (hpending : ∀ entry ∈ (c.channel.step event).1.pending,
      ∃ answer, (entry.1, answer) ∈ c.bodies ∧ entry.2 = answer.response.headers) :
    (c.near event).Numbered := by
  refine ⟨htidy, fun number => ?_, fun number hnumber => ?_, hpending⟩
  · rcases shares_near c event with ⟨-, hshares⟩ | ⟨-, hshares⟩
    · rw [hshares]
      exact honce number
    · rw [hshares]
      by_cases hn : c.channel.requests + 1 = number
      · rw [hfresh number (by omega), hn]
        simp
      · rw [List.count_eq_zero.2 (by simpa [eq_comm] using hn)]
        exact honce number
  · rcases shares_near c event with ⟨hrequests, hshares⟩ | ⟨hrequests, hshares⟩
    · rw [hshares]
      exact hfresh number (hrequests ▸ hnumber)
    · rw [hrequests] at hnumber
      rw [hshares, hfresh number (by omega), List.count_eq_zero.2 (by simp; omega)]

/-- A step of the server, before which a request may have been taken out. -/
theorem numbered_far [Sink τ] {c : Circuit σ τ} {event : Server.Event τ}
    (htidy : ∀ x ∈ c.server.sessions, x.Tidy)
    (honce : ∀ number, c.shares number + event.arrival.count number ≤ 1)
    (hfresh : ∀ number, c.channel.requests < number →
      c.shares number + event.arrival.count number = 0)
    (hpending : ∀ entry ∈ c.channel.pending,
      ∃ answer, (entry.1, answer) ∈ c.bodies ∧ entry.2 = answer.response.headers) :
    (c.far event).Numbered where
  tidy := Server.tidy_step htidy event
  once number := Nat.le_trans (shares_far htidy event number) (honce number)
  fresh number hnumber := by
    have := shares_far htidy event number
    have := hfresh number hnumber
    omega
  pending := hpending

/-- A request that reaches the server takes its number there. -/
theorem Numbered.request [Sink τ] {c : Circuit σ τ} (h : c.Numbered) {number : Nat}
    {kind : Channel.Kind} (hlookup : c.requests.lookup number = some kind) (message : Message)
    (target : Option τ) :
    ({ c with requests := without c.requests number }.far
      (.arrive number message target)).Numbered := by
  have hle : ∀ m, { c with requests := without c.requests number }.shares m +
      [number].count m ≤ c.shares m := by
    intro m
    have := count_without hlookup m
    simp only [shares]
    omega
  exact numbered_far h.tidy (fun m => Nat.le_trans (hle m) (h.once m))
    (fun m hm => Nat.eq_zero_of_le_zero (h.fresh m hm ▸ hle m)) h.pending

/-- The channel waits for the body of the answer whose head it is given. -/
theorem Numbered.head [Sink σ] {c : Circuit σ τ} (h : c.Numbered) {number : Nat} {answer : Answer}
    (hlookup : c.answers.lookup number = some answer) (status : Nat) :
    ({ c with
      answers := without c.answers number
      bodies := c.bodies ++ [(number, answer)] }.near
        (.head number status answer.response.headers)).Numbered := by
  have hle : ∀ m, { c with
      answers := without c.answers number
      bodies := c.bodies ++ [(number, answer)] }.shares m ≤ c.shares m := by
    intro m
    have := count_without hlookup m
    simp only [shares, List.map_append, List.count_append, List.map_cons, List.map_nil]
    omega
  refine numbered_near h.tidy (fun m => Nat.le_trans (hle m) (h.once m))
    (fun m hm => Nat.eq_zero_of_le_zero (h.fresh m hm ▸ hle m)) fun entry hentry => ?_
  rcases Channel.mem_pending_step hentry with ⟨hbefore, -⟩ | ⟨status, heq⟩
  · obtain ⟨a, hmem, hheaders⟩ := h.pending entry hbefore
    exact ⟨a, List.mem_append_left _ hmem, hheaders⟩
  · obtain ⟨m, headers⟩ := entry
    cases heq
    exact ⟨answer, List.mem_append_right _ (List.mem_singleton_self _), rfl⟩

/-- The channel does not wait for a body that has come, or has broken off. -/
theorem Numbered.body [Sink σ] {c : Circuit σ τ} (h : c.Numbered) (number : Nat)
    (content : Except IoError Bytes) :
    ({ c with bodies := without c.bodies number }.near (.body number content)).Numbered := by
  have hle : ∀ m, { c with bodies := without c.bodies number }.shares m ≤ c.shares m := by
    intro m
    have hsub : ((without c.bodies number).map (·.1)).count m ≤ (c.bodies.map (·.1)).count m :=
      (List.filter_sublist.map _).count_le m
    simp only [shares]
    omega
  refine numbered_near h.tidy (fun m => Nat.le_trans (hle m) (h.once m))
    (fun m hm => Nat.eq_zero_of_le_zero (h.fresh m hm ▸ hle m)) fun entry hentry => ?_
  rcases Channel.mem_pending_step hentry with ⟨hbefore, hne⟩ | ⟨status, heq⟩
  · obtain ⟨answer, hmem, hheaders⟩ := h.pending entry hbefore
    refine ⟨answer, List.mem_filter.2 ⟨hmem, ?_⟩, hheaders⟩
    exact decide_eq_true (hne number content rfl)
  · cases heq

/-- **Every event keeps each number in one place at most.** -/
theorem Numbered.step [Sink σ] [Sink τ] {c : Circuit σ τ} (h : c.Numbered) (event : Event σ τ) :
    (c.step event).Numbered := by
  -- events of the channel at which no message is moved, and which take no head
  have hnear : ∀ e : Channel.Event σ, (∀ request status headers, e ≠ .head request status headers) →
      (c.near e).Numbered := by
    intro e he
    refine numbered_near h.tidy h.once h.fresh fun entry hentry => ?_
    rcases Channel.mem_pending_step hentry with ⟨hbefore, -⟩ | ⟨status, heq⟩
    · exact h.pending entry hbefore
    · exact absurd heq (he _ _ _)
  cases event with
  | write data | close | device device | fail number => exact hnear _ nofun
  | request number target =>
    simp only [Circuit.step]
    cases hlookup : c.requests.lookup number with
    | none => exact h
    | some kind => exact h.request hlookup _ target
  | server event =>
    simp only [Circuit.step]
    split
    · rename_i hown
      have harrival : event.arrival = [] := by cases event <;> first | rfl | cases hown
      refine numbered_far h.tidy ?_ ?_ h.pending <;> rw [harrival]
      · exact h.once
      · exact h.fresh
    · exact h
  | emit session event => exact ⟨h.tidy, h.once, h.fresh, h.pending⟩
  | read session =>
    simp only [Circuit.step]
    split
    · split
      · exact numbered_far h.tidy h.once h.fresh h.pending
      · exact h
    · exact h
  | head number =>
    simp only [Circuit.step]
    cases hlookup : c.answers.lookup number with
    | none => exact h
    | some answer => exact h.head hlookup _
  | body number =>
    simp only [Circuit.step]
    cases c.bodies.lookup number with
    | none => exact h
    | some answer => exact h.body number _
  | cut number cause => exact h.body number _

end Circuit
end Tunnel
end PollTunnel
