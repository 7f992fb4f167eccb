import PollTunnel.Proofs.Circuit.Streams
import PollTunnel.Proofs.Requests.Answered

/-!
# Polling never dies

A channel starts no poll when it is told 429, since a newer request has then taken the place of the
one that is answered.  Target data and the end of the session reach it only through a request that
is still to be answered otherwise, and `Circuit.Polls` says that there is one: on its way to the
server, waiting there, or answered by anything but 429 on its way back.

* `Server.pending_step` is the server's part.  What comes in goes on to wait or is answered, and
  whoever makes the server answer 429 waits himself from then on.
* `Channel.head_continues` and `Channel.body_continues` are the channel's part.  An answer other
  than 429 is waited for, starts the next request, or closes the channel.
* `run_polls` is that this never ends, as long as the channel is open.
-/

set_option autoImplicit false

namespace PollTunnel
namespace Tunnel

/-! ## The server goes on with every request -/

namespace Server

variable {σ : Type}

theorem ceasing?_cases (s : Server σ) (event : Event σ) :
    (∃ number, event = .join number) ∨ s.ceasing? event = s.departing? event := by
  cases event with
  | join number => exact Or.inl ⟨number, rfl⟩
  | _ => exact Or.inr rfl

/-- A request on its way to a queue stays so until it joins. -/
theorem joining_of_arriving {s : Server σ} (hplaced : s.Placed) {event : Event σ}
    (hstay : s.departing? event = none) {number : Nat} (h : number ∈ numbers s.arriving) :
    number ∈ numbers (remaining s.arriving (s.ceasing? event)) ∨ number ∈ s.joining event := by
  rcases ceasing?_cases s event with ⟨m, rfl⟩ | hceasing
  · obtain ⟨visit, hvisit, rfl⟩ := List.mem_map.1 h
    by_cases hm : visit.number = m
    · subst hm
      refine Or.inr ?_
      cases hfound : s.arriving.find? (·.number = visit.number) with
      | none => exact absurd (List.find?_eq_none.1 hfound visit hvisit) (by simp)
      | some found =>
        have hlt := hplaced.arriving found (List.mem_of_find?_eq_some hfound)
        rw [joining, action?, hfound]
        dsimp only [Option.map_some]
        rw [if_pos hlt]
        exact List.mem_singleton_self _
    · exact Or.inl (List.mem_map.2 ⟨visit, List.mem_filter.2 ⟨hvisit, decide_eq_true hm⟩, rfl⟩)
  · rw [hceasing, hstay]
    exact Or.inl h

/-- A request that arrives is given a session, or is answered at once. -/
theorem visiting_of_arrival (s : Server σ) {event : Event σ} {number : Nat}
    (h : number ∈ event.arrival) :
    number ∈ numbers (s.visiting event) ∨ ∃ a, a ∈ answersTo number (s.remark event) := by
  cases event with
  | arrive m request target =>
    obtain rfl := List.mem_singleton.1 h
    simp only [visiting, remark, arrive]
    cases Received.ofMessage request with
    | error e => exact Or.inr ⟨(.rejected e.message, true), by simp [answersTo]⟩
    | ok received =>
      cases s.current <;> cases target
      · exact Or.inr ⟨(.status Status.gone, true), by simp [answersTo]⟩
      all_goals exact Or.inl (List.mem_singleton_self _)
  | _ => exact absurd h List.not_mem_nil

variable [Sink σ]

/-- **No request is forgotten.**  One that is on its way, waits or comes is on its way, waits or is
answered after the event. -/
theorem mem_step {s : Server σ} (htidy : ∀ x ∈ s.sessions, x.Tidy) (hplaced : s.Placed)
    {event : Event σ} (hstay : s.departing? event = none) {number : Nat}
    (h : number ∈ numbers s.arriving ∨ number ∈ s.waiting ∨ number ∈ event.arrival) :
    number ∈ numbers (s.step event).1.arriving ∨ number ∈ (s.step event).1.waiting ∨
      ∃ a, a ∈ answersTo number (s.step event).2 := by
  have hreact := numbers_react htidy event number
  -- Who waits or joins is answered or waits, by the count of what the sessions do.
  have hqueued : 0 < s.waiting.count number + (s.joining event).count number →
      number ∈ (s.step event).1.waiting ∨ ∃ a, a ∈ answersTo number (s.step event).2 := by
    intro hpos
    rw [waiting_step, (step_reacts s event).2, answersTo_append]
    by_cases hwaits : number ∈ (s.react event).1.waiting
    · exact Or.inl hwaits
    · rw [List.count_eq_zero.2 hwaits] at hreact
      obtain ⟨a, ha⟩ := List.exists_mem_of_length_pos
        (show 0 < (answersTo number (s.react event).2).length by omega)
      exact Or.inr ⟨a, List.mem_append_left _ ha⟩
  rw [arriving_step, numbers, List.map_append, List.mem_append]
  rcases h with harriving | hwaiting | harrival
  · rcases joining_of_arriving hplaced hstay harriving with hremains | hjoins
    · exact Or.inl (Or.inl hremains)
    · exact Or.inr (hqueued (Nat.add_pos_right _ (List.count_pos_iff.2 hjoins)))
  · exact Or.inr (hqueued (Nat.add_pos_left (List.count_pos_iff.2 hwaiting) _))
  · rcases visiting_of_arrival s harrival with hvisits | ⟨a, ha⟩
    · exact Or.inl (Or.inr hvisits)
    · refine Or.inr (Or.inr ⟨a, ?_⟩)
      rw [(step_reacts s event).2, answersTo_append]
      exact List.mem_append_right _ ha

/-- Who stays takes the answer, and stays. -/
theorem marks_step {s : Server σ} (htidy : ∀ x ∈ s.sessions, x.Tidy)
    (hpresent : ∀ number, s.Marks number true) {event : Event σ}
    (hstay : s.departing? event = none) (number : Nat) :
    (s.step event).1.Marks number true ∧
      ∀ a ∈ answersTo number (s.step event).2, a.2 = true := by
  have hmarks : (s.departed (s.departing? event)).Marks number true := by
    rw [hstay]
    exact hpresent number
  obtain ⟨hafter, hreact⟩ := hmarks.step htidy nofun
  refine ⟨hafter, fun a ha => ?_⟩
  rw [(step_reacts s event).2, answersTo_append, List.mem_append] at ha
  rcases ha with ha | ha
  · exact hreact a ha
  · exact (mem_remark ha).2.1

/-- **A 429 leaves somebody behind who waits.**  As long as one request is on its way, waits or
comes, one is on its way or waits after the event, or that one is answered otherwise. -/
theorem pending_step {s : Server σ} (htidy : ∀ x ∈ s.sessions, x.Tidy) (hplaced : s.Placed)
    (hpresent : ∀ number, s.Marks number true) {event : Event σ}
    (hstay : s.departing? event = none) {number : Nat}
    (h : number ∈ numbers s.arriving ∨ number ∈ s.waiting ∨ number ∈ event.arrival) :
    (∃ visit, visit ∈ (s.step event).1.arriving) ∨ (∃ k w, w ∈ (s.step event).1.queue k) ∨
      ∃ answer, (answer, true) ∈ answersTo number (s.step event).2 ∧
        answer.statusCode ≠ Status.tooManyRequests := by
  rcases mem_step htidy hplaced hstay h with harriving | hwaiting | ⟨⟨answer, taken⟩, ha⟩
  · obtain ⟨visit, hvisit, -⟩ := List.mem_map.1 harriving
    exact Or.inl ⟨visit, hvisit⟩
  · obtain ⟨k, hk⟩ := mem_waiting.1 hwaiting
    obtain ⟨w, hw, -⟩ := List.mem_map.1 hk
    exact Or.inr (Or.inl ⟨k, w, hw⟩)
  · by_cases hcode : answer.statusCode = Status.tooManyRequests
    · obtain ⟨_, k, _, second, _, _, _, _, hqueue⟩ := displaced_of_mem htidy ha hcode
      refine Or.inr (Or.inl ⟨k, second, ?_⟩)
      rw [hqueue]
      exact List.mem_cons_self
    · obtain rfl : taken = true := (marks_step htidy hpresent hstay number).2 _ ha
      exact Or.inr (Or.inr ⟨answer, ha, hcode⟩)

end Server

/-! ## The channel goes on with every answer -/

namespace Channel

variable {σ : Type}

theorem isOpen_stop (c : Channel σ) : c.stop.1.isOpen = false := by
  rw [stop]
  split
  · rfl
  · rename_i hopen
    simpa using hopen

theorem isOpen_close (c : Channel σ) : c.close.1.isOpen = false := by
  rw [close]
  split
  · rfl
  · rename_i hopen
    simpa using hopen

/-- A channel that is open after it polls has started a request. -/
theorem poll_continues {c : Channel σ} (hopen : c.poll.1.isOpen = true) :
    started c.poll.2 ≠ [] := by
  have hbefore : c.isOpen = true := (comes_poll c .close).isOpen hopen
  rw [poll, launch, if_pos hbefore]
  exact List.cons_ne_nil _ _

/-- A head other than that of a 429 is kept until its body comes, or starts a request. -/
theorem head_continues {c : Channel σ} {request : Nat} {status : Status} {headers : Headers}
    (hstatus : status ≠ Status.tooManyRequests)
    (hopen : (c.head request status headers).1.isOpen = true) :
    (request, headers) ∈ (c.head request status headers).1.pending ∨
      started (c.head request status headers).2 ≠ [] := by
  have hbefore : c.isOpen = true := (comes_head c request status headers).isOpen hopen
  rw [head, if_pos hbefore] at hopen ⊢
  by_cases hok : status = Status.ok
  · rw [takeHead, if_pos hok]
    exact Or.inl (List.mem_append_right _ (List.mem_singleton_self _))
  · rw [takeHead, if_neg hok] at hopen ⊢
    by_cases hnone : status = Status.noContent
    · rw [sequel, if_pos hnone] at hopen ⊢
      exact Or.inr (poll_continues hopen)
    · rw [sequel, if_neg hnone, if_neg hstatus] at hopen
      rw [show (follow c .stop).1.isOpen = false from isOpen_stop c] at hopen
      cases hopen

/-- A body that was waited for starts a request. -/
theorem body_continues [Sink σ] {c : Channel σ} {request : Nat} {content : Except IoError Bytes}
    {headers : Headers} (hpending : (request, headers) ∈ c.pending)
    (hopen : (c.body request content).1.isOpen = true) :
    started (c.body request content).2 ≠ [] := by
  rw [body] at hopen ⊢
  have hsequel : (c.takeBody request content).2 ≠ .nothing := by
    rw [takeBody]
    cases hlookup : c.pending.lookup request with
    | none =>
      have hne := List.lookup_eq_none_iff.1 hlookup _ hpending
      exact absurd rfl (bne_iff_ne.1 hne)
    | some found =>
      dsimp only
      repeat' split
      all_goals exact fun h => by cases h
  generalize c.takeBody request content = taken at hsequel hopen ⊢
  obtain ⟨d, sequel⟩ := taken
  cases sequel with
  | nothing => exact absurd rfl hsequel
  | poll => exact poll_continues hopen
  | stop =>
    rw [show (follow d .stop).1.isOpen = false from isOpen_stop d] at hopen
    cases hopen

/-- Only a body takes away what the channel waits for. -/
theorem pending_subset_step [Sink σ] (c : Channel σ) {event : Event σ}
    (h : ∀ request content, event ≠ .body request content) :
    c.pending ⊆ (c.step event).1.pending := by
  cases event with
  | write data =>
    rcases write_cases c data with ⟨heq, -⟩ | ⟨-, -, heq⟩ | ⟨p, -, -, -, heq⟩ <;>
      rw [heq] <;> exact List.Subset.refl _
  | close => exact pending_close c ▸ List.Subset.refl _
  | head request status headers =>
    rw [step, head]
    split
    · rw [pending_follow, takeHead]
      split
      · exact List.subset_append_left _ _
      · exact List.Subset.refl _
    · exact List.Subset.refl _
  | body request content => exact absurd rfl (h request content)
  | fail request => exact pending_follow c .stop ▸ List.Subset.refl _
  | device device => exact List.Subset.refl _

end Channel

/-! ## Both together -/

namespace Circuit

variable {σ τ : Type}

/-- There is a request through which target data, or the end of the session, can reach the
channel. -/
inductive Polls (c : Circuit σ τ) : Prop where
  /-- One is on its way to the server. -/
  | underway {number : Nat} {kind : Channel.Kind} (h : (number, kind) ∈ c.requests)
  /-- One has reached the server and is on its way to the queue of its session. -/
  | arriving {visit : Visit} (h : visit ∈ c.server.arriving)
  /-- One waits for an open session, and the requester is there. -/
  | waiting {k : Nat} {x : Session τ} {w : Waiter} (session : c.server.sessions[k]? = some x)
      (isOpen : x.isOpen = true) (h : w ∈ x.waiting) (present : w.present = true)
  /-- An answer other than 429 is on its way back. -/
  | answered {number : Nat} {answer : Answer} (h : (number, answer) ∈ c.answers)
      (status : answer.statusCode ≠ Status.tooManyRequests)
  /-- The channel waits for the body of such an answer, which is on its way back. -/
  | body {number : Nat} {answer : Answer} {headers : Headers} (h : (number, answer) ∈ c.bodies)
      (pending : (number, headers) ∈ c.channel.pending)

/-- Nobody goes away from a request by such an event: the connections of requests hold. -/
def keepsRequests : Event σ τ → Bool
  | .server (.leave _) | .server (.abandon _) => false
  | _ => true

/-- What all steps keep. -/
structure Polling (c : Circuit σ τ) : Prop where
  numbered : c.Numbered
  placed : c.server.Placed
  present : ∀ number, c.server.Marks number true
  polls : c.channel.isOpen = true → c.Polls

/-- Messages that are added change nothing. -/
theorem Polls.mono {c d : Circuit σ τ} (h : c.Polls) (hrequests : c.requests ⊆ d.requests)
    (hserver : d.server = c.server) (hanswers : c.answers ⊆ d.answers)
    (hbodies : c.bodies ⊆ d.bodies) (hpending : c.channel.pending ⊆ d.channel.pending) :
    d.Polls := by
  cases h with
  | underway h => exact .underway (hrequests h)
  | arriving h => exact .arriving (hserver ▸ h)
  | waiting session isOpen h present => exact .waiting (hserver ▸ session) isOpen h present
  | answered h status => exact .answered (hanswers h) status
  | body h pending => exact .body (hbodies h) (hpending pending)

theorem polls_of_started [Sink σ] {c : Circuit σ τ} {event : Channel.Event σ}
    (h : Channel.started (c.channel.step event).2 ≠ []) : (c.near event).Polls := by
  obtain ⟨⟨number, kind⟩, hmem⟩ := List.exists_mem_of_ne_nil _ h
  exact .underway (List.mem_append_right c.requests hmem)

theorem mem_taken {number : Nat} {answer : Answer} {effects : List Server.Effect}
    (h : (answer, true) ∈ Server.answersTo number effects) : (number, answer) ∈ taken effects := by
  obtain ⟨effect, heffect, heq⟩ := List.mem_filterMap.1 h
  refine List.mem_filterMap.2 ⟨effect, heffect, ?_⟩
  cases effect with
  | answer m a present =>
    dsimp only at heq ⊢
    split at heq
    · rename_i hm
      cases heq
      rw [hm]
    · cases heq
  | _ => cases heq

/-! ### Steps of the server -/

/-- The server answers what it has, unless it has it still. -/
theorem polls_far [Sink τ] {c : Circuit σ τ} (hnumbered : ∀ x ∈ c.server.sessions, x.Tidy)
    (hplaced : c.server.Placed) (hpresent : ∀ number, c.server.Marks number true)
    {event : Server.Event τ} (hstay : c.server.departing? event = none) {number : Nat}
    (h : number ∈ Server.numbers c.server.arriving ∨ number ∈ c.server.waiting ∨
      number ∈ event.arrival) : (c.far event).Polls := by
  rcases Server.pending_step hnumbered hplaced hpresent hstay h with
    ⟨visit, hvisit⟩ | ⟨k, w, hw⟩ | ⟨answer, hanswer, hcode⟩
  · exact .arriving hvisit
  · obtain ⟨x, hx, hwx⟩ := Server.mem_queue.1 hw
    have hopen : x.isOpen = true := by
      cases hopen : x.isOpen with
      | true => rfl
      | false =>
        have htidy := Server.tidy_step hnumbered event x (List.mem_of_getElem? hx)
        rw [htidy.emptied hopen] at hwx
        exact absurd hwx List.not_mem_nil
    exact .waiting hx hopen hwx
      ((Server.marks_step hnumbered hpresent hstay w.number).1 k w hw rfl)
  · exact .answered (List.mem_append_right _ (mem_taken hanswer)) hcode

theorem Polls.far [Sink τ] {c : Circuit σ τ} (h : c.Polls)
    (htidy : ∀ x ∈ c.server.sessions, x.Tidy) (hplaced : c.server.Placed)
    (hpresent : ∀ number, c.server.Marks number true) {event : Server.Event τ}
    (hstay : c.server.departing? event = none) : (c.far event).Polls := by
  cases h with
  | underway h => exact .underway h
  | arriving h =>
    exact polls_far htidy hplaced hpresent hstay (Or.inl (List.mem_map.2 ⟨_, h, rfl⟩))
  | waiting session isOpen h present =>
    exact polls_far htidy hplaced hpresent hstay (Or.inr (Or.inl (Server.mem_waiting.2
      ⟨_, List.mem_map.2 ⟨_, Server.mem_queue.2 ⟨_, session, h⟩, rfl⟩⟩)))
  | answered h status => exact .answered (List.mem_append_left _ h) status
  | body h pending => exact .body h pending

/-- A step of the server, before which a request or a chunk may have been taken out. -/
theorem Polling.far [Sink σ] [Sink τ] {c d : Circuit σ τ} (h : c.Polling)
    (hserver : d.server = c.server) {event : Server.Event τ} (hnumbered : (d.far event).Numbered)
    (hstay : c.server.departing? event = none)
    (hpolls : d.channel.isOpen = true → d.Polls ∨ event.arrival ≠ []) :
    (d.far event).Polling := by
  have htidy : ∀ x ∈ d.server.sessions, x.Tidy := hserver ▸ h.numbered.tidy
  have hplaced : d.server.Placed := hserver ▸ h.placed
  have hpresent : ∀ number, d.server.Marks number true := hserver ▸ h.present
  rw [← hserver] at hstay
  refine ⟨hnumbered, hplaced.step event,
    fun number => (Server.marks_step htidy hpresent hstay number).1, fun hopen => ?_⟩
  rcases hpolls hopen with hpolls | harrival
  · exact hpolls.far htidy hplaced hpresent hstay
  · obtain ⟨number, hnumber⟩ := List.exists_mem_of_ne_nil _ harrival
    exact polls_far htidy hplaced hpresent hstay (Or.inr (Or.inr hnumber))

/-! ### Steps of the channel -/

/-- The head of an answer reaches the channel. -/
theorem Polls.head [Sink σ] {c : Circuit σ τ} (h : c.Polls) (hnumbered : c.Numbered) {m : Nat}
    {found : Answer} (hlookup : c.answers.lookup m = some found)
    (hopen : (c.channel.head m found.response.status found.response.headers).1.isOpen = true) :
    ({ c with
      answers := without c.answers m
      bodies := c.bodies ++ [(m, found)] }.near
        (.head m found.response.status found.response.headers)).Polls := by
  have hpending : c.channel.pending ⊆ (c.channel.step
      (.head m found.response.status found.response.headers)).1.pending :=
    c.channel.pending_subset_step nofun
  cases h with
  | underway h => exact .underway (List.mem_append_left _ h)
  | arriving h => exact .arriving h
  | waiting session isOpen h present => exact .waiting session isOpen h present
  | @answered number answer h status =>
    by_cases hm : number = m
    · subst hm
      -- Its number is in one place only, so this is the answer that is delivered.
      have hle : (c.answers.map (·.1)).count number ≤ 1 := by
        have := hnumbered.once number
        simp only [shares] at this
        omega
      have hsame := eq_of_count_map_le_one (f := Prod.fst) hle h (mem_of_lookup hlookup) rfl rfl
      obtain rfl : answer = found := (Prod.mk.inj hsame).2
      rw [← Answer.status_response] at status
      rcases Channel.head_continues status hopen with hbody | hstarted
      · exact .body (List.mem_append_right _ (List.mem_singleton_self _)) hbody
      · exact polls_of_started hstarted
    · exact .answered (List.mem_filter.2 ⟨h, decide_eq_true hm⟩) status
  | body h pending => exact .body (List.mem_append_left _ h) (hpending pending)

/-- A body reaches the channel, or breaks off. -/
theorem Polls.body_near [Sink σ] {c : Circuit σ τ} (h : c.Polls) {m : Nat}
    {content : Except IoError Bytes} (hopen : (c.channel.body m content).1.isOpen = true) :
    ({ c with bodies := without c.bodies m }.near (.body m content)).Polls := by
  cases h with
  | underway h => exact .underway (List.mem_append_left _ h)
  | arriving h => exact .arriving h
  | waiting session isOpen h present => exact .waiting session isOpen h present
  | answered h status => exact .answered h status
  | @body number answer headers h pending =>
    by_cases hm : number = m
    · subst hm
      exact polls_of_started (Channel.body_continues pending hopen)
    · have hpending : (number, headers) ∈ (c.channel.body m content).1.pending := by
        rw [Channel.pending_body]
        exact List.mem_filter.2 ⟨pending, decide_eq_true hm⟩
      exact .body (List.mem_filter.2 ⟨h, decide_eq_true hm⟩) hpending

/-! ### All events -/

variable [Sink σ] [Sink τ]

/-- **Every event leaves the channel a request that is still to be answered**, or closes it. -/
theorem Polling.step {c : Circuit σ τ} (h : c.Polling) {event : Event σ τ}
    (hkeeps : keepsRequests event = true) : (c.step event).Polling := by
  have hnumbered := h.numbered.step event
  -- what a step of the channel leaves to show
  have hnear : ∀ {d : Circuit σ τ}, d.Numbered → d.server = c.server →
      (d.channel.isOpen = true → d.Polls) → d.Polling := by
    intro d hd hserver hpolls
    exact ⟨hd, hserver ▸ h.placed, hserver ▸ h.present, hpolls⟩
  cases event with
  | write data | device device =>
    refine hnear hnumbered rfl fun hopen => ?_
    exact (h.polls ((Channel.step_comes _ _).isOpen hopen)).mono (List.subset_append_left _ _) rfl
      (List.Subset.refl _) (List.Subset.refl _) (c.channel.pending_subset_step nofun)
  | close =>
    refine hnear hnumbered rfl fun hopen => ?_
    rw [show ((c.step .close).channel.isOpen) = false from c.channel.isOpen_close] at hopen
    cases hopen
  | fail number =>
    refine hnear hnumbered rfl fun hopen => ?_
    rw [show ((c.step (.fail number)).channel.isOpen) = false from c.channel.isOpen_stop] at hopen
    cases hopen
  | request number target =>
    simp only [Circuit.step] at hnumbered ⊢
    cases hlookup : c.requests.lookup number with
    | none => exact h
    | some kind =>
      rw [hlookup] at hnumbered
      refine h.far ?_ hnumbered rfl fun _ => Or.inr (List.cons_ne_nil _ _)
      rfl
  | server event =>
    simp only [Circuit.step] at hnumbered ⊢
    split
    · rename_i hown
      rw [if_pos hown] at hnumbered
      have hstay : c.server.departing? event = none := by
        cases event with
        | leave number | abandon number => cases hkeeps
        | _ => rfl
      exact h.far rfl hnumbered hstay fun hopen => Or.inl (h.polls hopen)
    · exact h
  | emit session event =>
    refine hnear hnumbered rfl fun hopen => ?_
    exact (h.polls hopen).mono (List.Subset.refl _) rfl (List.Subset.refl _) (List.Subset.refl _)
      (List.Subset.refl _)
  | read session =>
    simp only [Circuit.step] at hnumbered ⊢
    split
    · rename_i x hx
      rw [hx] at hnumbered
      split
      · rename_i hreading
        dsimp only at hnumbered
        rw [if_pos hreading] at hnumbered
        refine h.far ?_ hnumbered rfl fun hopen => Or.inl ?_
        · rfl
        · exact (h.polls hopen).mono (List.Subset.refl _) rfl (List.Subset.refl _)
            (List.Subset.refl _) (List.Subset.refl _)
      · exact h
    · exact h
  | head number =>
    simp only [Circuit.step] at hnumbered ⊢
    cases hlookup : c.answers.lookup number with
    | none => exact h
    | some answer =>
      rw [hlookup] at hnumbered
      refine hnear hnumbered rfl fun hopen => ?_
      exact (h.polls ((Channel.step_comes _ _).isOpen hopen)).head h.numbered hlookup hopen
  | body number =>
    simp only [Circuit.step] at hnumbered ⊢
    cases hlookup : c.bodies.lookup number with
    | none => exact h
    | some answer =>
      rw [hlookup] at hnumbered
      refine hnear hnumbered rfl fun hopen => ?_
      exact (h.polls ((Channel.step_comes _ _).isOpen hopen)).body_near hopen
  | cut number cause =>
    refine hnear hnumbered rfl fun hopen => ?_
    exact (h.polls ((Channel.step_comes _ _).isOpen hopen)).body_near hopen

omit [Sink σ] [Sink τ] in
theorem polling_begin (endpoint : Endpoint) (timeouts : Timeouts) (device : σ) :
    (begin endpoint timeouts device : Circuit σ τ).Polling where
  numbered := numbered_begin endpoint timeouts device
  placed := Server.placed_ofTimeouts timeouts
  present _ _ _ hw := absurd hw List.not_mem_nil
  polls _ := .underway (List.mem_singleton_self _)

theorem Polling.run {c : Circuit σ τ} (h : c.Polling) (events : List (Event σ τ))
    (hkeeps : ∀ event ∈ events, keepsRequests event = true) : (c.run events).Polling := by
  induction events generalizing c with
  | nil => exact h
  | cons event rest ih =>
    rw [List.forall_mem_cons] at hkeeps
    exact ih (h.step hkeeps.1) hkeeps.2

/-- **Polling never dies.**  In every run in which the connections of requests hold, and for as long
as the channel is open, a request of it is on its way, waits, or is answered otherwise than by a 429
that starts no other. -/
theorem run_polls (endpoint : Endpoint) (timeouts : Timeouts) (device : σ)
    (events : List (Event σ τ)) (hkeeps : ∀ event ∈ events, keepsRequests event = true)
    (hopen : ((begin endpoint timeouts device).run events).channel.isOpen = true) :
    ((begin endpoint timeouts device).run events).Polls :=
  ((polling_begin endpoint timeouts device).run events hkeeps).polls hopen

/-- Two payloads displace the first poll, and its 429 starts no other.  The requests that brought
them wait in its stead. -/
theorem run_polls_displaced :
    let endpoint : Endpoint := ⟨⟨"", .domain "far", none, "/", none, none⟩, []⟩
    let events : List (Event SoundSink SoundSink) :=
      [.request 1 (some ⟨⟩), .server (.join 1), .write [1], .write [2], .request 2 none,
        .server (.join 2), .request 3 none, .server (.join 3), .head 1]
    let c := (begin endpoint {} (⟨⟩ : SoundSink)).run events
    (∀ event ∈ events, keepsRequests event = true) ∧ c.channel.isOpen = true ∧ c.Polls ∧
      c.channel.requests = 3 ∧ c.requests = [] ∧ c.answers = [] ∧ c.channel.pending = [] ∧
      (c.server.queue 0).map (·.number) = [2, 3] := by
  intro endpoint events c
  have hkeeps : ∀ event ∈ events, keepsRequests event = true := by decide
  have hopen : c.channel.isOpen = true := by decide +kernel
  exact ⟨hkeeps, hopen, run_polls endpoint {} (⟨⟩ : SoundSink) events hkeeps hopen,
    by decide +kernel, by decide +kernel, by decide +kernel, by decide +kernel, by decide +kernel⟩

end Circuit
end Tunnel
end PollTunnel
