import PollTunnel.Proofs.Circuit.Ledger

/-!
# The stream from the target

A session numbers the chunks that it reads one after another, and their bytes are what the target
sent.  Each chunk is held, or handed to one requester and under way, or was given to the channel's
forwarder: never in two of these places (`Inbound.carries`).  So the forwarder carries the stream.

Chunks are numbered by each session from one.  All of this is about a server that has opened no more
than one.
-/

set_option autoImplicit false

namespace PollTunnel
namespace Tunnel
namespace Circuit

variable {σ τ : Type}

/-- The chunks of answers that are under way. -/
def chunksOf (answers : List (Nat × Answer)) : List Payload :=
  answers.filterMap fun message =>
    match message.2 with
    | .payload p => some p
    | _ => none

/-- The chunks that are between the target and the channel. -/
def incoming (c : Circuit σ τ) : List Payload :=
  c.server.held ++ (chunksOf c.answers ++ chunksOf c.bodies)

/-- The session has numbered `chunks`, and what its target sent begins with their bytes. -/
structure Inbound (c : Circuit σ τ) (sent : Bytes) (chunks : List Payload) : Prop where
  follows : Forwarder.Follows 0 chunks
  data : chunks.flatMap (·.data) <+: sent
  /-- What was not numbered is in store until the loop ends. -/
  current : (∀ x ∈ c.server.sessions, x.isRunning = true) →
    chunks.flatMap (·.data) ++ (c.sources 0).bytes = sent
  numbered : ∀ x ∈ c.server.sessions, x.isRunning = true → chunks.length = x.chunks
  fresh : c.server.sessions = [] → chunks = []
  /-- What the channel was given is not under way any more. -/
  carries : ∃ seen part, Forwarder.Carries seen part c.channel.forwarder ∧
    ∀ p, c.incoming.count p + seen.count p ≤ chunks.count p

theorem chunksOf_append (a b : List (Nat × Answer)) :
    chunksOf (a ++ b) = chunksOf a ++ chunksOf b :=
  List.filterMap_append

/-- What requesters take is what was handed out. -/
theorem chunksOf_taken (effects : List Server.Effect) :
    chunksOf (taken effects) = Server.handed effects := by
  induction effects with
  | nil => rfl
  | cons effect effects ih =>
    rw [taken, Server.handed] at ih ⊢
    rw [List.filterMap_cons, List.filterMap_cons]
    cases effect with
    | answer number answer present =>
      cases answer <;> cases present <;> simp only [chunksOf, List.filterMap_cons] at ih ⊢ <;> rw [ih]
    | _ => exact ih

/-- An answer that is taken out takes its chunk with it. -/
theorem count_chunksOf_without {answers : List (Nat × Answer)} {number : Nat} {answer : Answer}
    (h : answers.lookup number = some answer) (p : Payload) :
    (chunksOf (without answers number)).count p + (chunksOf [(number, answer)]).count p ≤
      (chunksOf answers).count p := by
  have hone : chunksOf [(number, answer)] = (match answer with
      | .payload p => some p
      | _ => none).toList := by
    rw [chunksOf, List.filterMap_cons]
    cases answer <;> rfl
  rw [hone]
  exact count_filterMap_filter_ne (k := Prod.fst) (mem_of_lookup h) p

/-! ## Steps of the channel -/

/-- Messages may be moved or lost. -/
theorem Inbound.moved {c : Circuit σ τ} {sent : Bytes} {chunks : List Payload}
    (h : c.Inbound sent chunks) {answers bodies : List (Nat × Answer)}
    (hle : ∀ p, (chunksOf answers).count p + (chunksOf bodies).count p ≤
      (chunksOf c.answers).count p + (chunksOf c.bodies).count p) :
    { c with answers, bodies }.Inbound sent chunks := by
  refine ⟨h.follows, h.data, h.current, h.numbered, h.fresh, ?_⟩
  obtain ⟨seen, part, hcarries, hcount⟩ := h.carries
  refine ⟨seen, part, hcarries, fun p => ?_⟩
  have h₁ := hle p
  have h₂ := hcount p
  simp only [incoming, List.count_append] at h₂ ⊢
  omega

/-- An event that gives the channel nothing changes nothing. -/
theorem Inbound.near [Sink σ] {c : Circuit σ τ} {sent : Bytes} {chunks : List Payload}
    (h : c.Inbound sent chunks) {event : Channel.Event σ}
    (hne : ∀ number bytes, event ≠ .body number (.ok bytes)) :
    (c.near event).Inbound sent chunks := by
  refine ⟨h.follows, h.data, h.current, h.numbered, h.fresh, ?_⟩
  obtain ⟨seen, part, hcarries, hcount⟩ := h.carries
  rcases Channel.forwarder_step_cases c.channel event with ⟨number, bytes, _, _, heq, -⟩ | hsame
  · exact absurd heq (hne number bytes)
  · exact ⟨seen, part, hcarries.of_same hsame, hcount⟩

/-- A body gives the channel the chunk of its answer. -/
theorem Inbound.body [Sink σ] {c : Circuit σ τ} {sent : Bytes} {chunks : List Payload}
    (h : c.Inbound sent chunks) (hnumbered : c.Numbered) {number : Nat} {answer : Answer}
    (hlookup : c.bodies.lookup number = some answer) :
    ({ c with bodies := without c.bodies number }.near
      (.body number (.ok answer.response.body))).Inbound sent chunks := by
  have htake := count_chunksOf_without hlookup
  refine ⟨h.follows, h.data, h.current, h.numbered, h.fresh, ?_⟩
  obtain ⟨seen, part, hcarries, hcount⟩ := h.carries
  rcases Channel.forwarder_step_cases c.channel (.body number (.ok answer.response.body)) with
    ⟨_, _, headers, p, heq, hpending, hreceived, hforward⟩ | hsame
  · cases heq
    -- the head that was delivered is that of the same answer
    obtain ⟨a, hmem, hheaders⟩ := hnumbered.pending _ (mem_of_lookup hpending)
    have hle : (c.bodies.map (·.1)).count number ≤ 1 := by
      have := hnumbered.once number
      rw [shares] at this
      omega
    obtain ⟨-, rfl⟩ := Prod.mk.inj
      (eq_of_count_map_le_one hle hmem (mem_of_lookup hlookup) rfl rfl)
    dsimp only at hheaders
    subst hheaders
    obtain rfl := Answer.ofMessage_response a hreceived
    have hafter : ∀ q, ({ c with bodies := without c.bodies number }.near
        (.body number (.ok (Answer.payload p).response.body))).incoming.count q +
          (seen ++ [p]).count q ≤ chunks.count q := by
      intro q
      have h₁ := htake q
      have h₂ := hcount q
      simp only [incoming, Circuit.near, List.count_append] at h₂ ⊢
      simp only [chunksOf, List.filterMap_cons, List.filterMap_nil] at h₁ ⊢ h₂
      omega
    obtain ⟨part', hcarries'⟩ := hcarries.forward_of_count h.follows.nodup fun q =>
      Nat.le_trans (Nat.le_add_left _ _) (hafter q)
    exact ⟨seen ++ [p], part', hforward ▸ hcarries', hafter⟩
  · refine ⟨seen, part, hcarries.of_same hsame, fun q => ?_⟩
    have h₁ := htake q
    have h₂ := hcount q
    simp only [incoming, Circuit.near, List.count_append] at h₂ ⊢
    omega

/-! ## Steps of the server -/

/-- A step of the server, before which a source may have been read. -/
theorem Inbound.far [Sink τ] {c : Circuit σ τ} {sent : Bytes} {chunks : List Payload}
    (h : c.Inbound sent chunks) {event : Server.Event τ}
    (hone : (c.server.step event).1.sessions.length ≤ 1) (sources : Nat → Source)
    (hfront : (c.server.drawn event).flatMap (·.data) <+: (c.sources 0).bytes)
    (hstore : (∀ y ∈ (c.server.step event).1.sessions, y.isRunning = true) →
      (c.server.drawn event).flatMap (·.data) ++ (sources 0).bytes = (c.sources 0).bytes) :
    ({ c with sources }.far event).Inbound sent (chunks ++ c.server.drawn event) := by
  have hlength := Server.length_sessions_step c.server event
  have hcarries : ∃ seen part, Forwarder.Carries seen part c.channel.forwarder ∧ ∀ p,
      ({ c with sources }.far event).incoming.count p + seen.count p ≤
        (chunks ++ c.server.drawn event).count p := by
    obtain ⟨seen, part, hcarries, hcount⟩ := h.carries
    refine ⟨seen, part, hcarries, fun p => ?_⟩
    have h₁ := hcount p
    have h₂ := Server.flow_step c.server event p
    simp only [incoming, Circuit.far, chunksOf_append, chunksOf_taken, List.count_append] at h₁ ⊢
    omega
  rcases hsessions : c.server.sessions with _ | ⟨x, _ | ⟨y, rest⟩⟩
  · have hnone : c.server.drawn event = [] := by
      refine (Server.drawn_cases c.server event).resolve_right ?_
      rintro ⟨x, hx, -⟩
      rw [hsessions] at hx
      exact List.not_mem_nil hx
    rw [hnone, List.append_nil] at hcarries ⊢
    rw [hnone] at hstore
    refine ⟨h.follows, h.data, fun hruns => ?_, fun y hy _ => ?_, fun _ => h.fresh hsessions,
      hcarries⟩
    · rw [← h.current (by rw [hsessions]; exact fun x hx => absurd hx List.not_mem_nil),
        ← hstore hruns]
      rfl
    · obtain ⟨k, hk⟩ := List.mem_iff_getElem?.1 hy
      obtain ⟨device, rfl⟩ := Server.eq_start_of_new (by rw [hsessions]; rfl) hk
      rw [h.fresh hsessions]
      rfl
  · have hx : x ∈ c.server.sessions := hsessions ▸ List.mem_singleton_self x
    obtain ⟨y, hy⟩ : ∃ y, (c.server.step event).1.sessions = [y] := by
      rw [hsessions] at hlength
      exact List.length_eq_one_iff.1 (Nat.le_antisymm hone (by rw [hlength]; simp))
    have hchunks := Server.chunks_step (y := y) hsessions event (by rw [hy]; rfl)
    have hdrawn : c.server.drawn event = [] ∨
        ∃ p, c.server.drawn event = [p] ∧ p.sequence = x.chunks + 1 ∧ x.isRunning = true := by
      refine (Server.drawn_cases c.server event).imp_right ?_
      rintro ⟨z, hz, hp⟩
      rw [hsessions] at hz
      exact List.mem_singleton.1 hz ▸ hp
    have hall : x.isRunning = true → chunks.flatMap (·.data) ++ (c.sources 0).bytes = sent := by
      intro hruns
      refine h.current fun z hz => ?_
      rw [hsessions] at hz
      exact List.mem_singleton.1 hz ▸ hruns
    refine ⟨?_, ?_, fun hruns => ?_, fun z hz hruns => ?_, fun hnone => ?_, hcarries⟩
    · rcases hdrawn with hnone | ⟨p, hp, hsequence, hruns⟩
      · rw [hnone, List.append_nil]
        exact h.follows
      · rw [hp]
        refine h.follows.append_singleton ?_
        rw [hsequence, h.numbered x hx hruns, Nat.zero_add]
    · rw [List.flatMap_append]
      rcases hdrawn with hnone | ⟨p, -, -, hruns⟩
      · rw [hnone, List.flatMap_nil, List.append_nil]
        exact h.data
      · rw [← hall hruns, List.prefix_append_right_inj]
        exact hfront
    · have hyruns : y.isRunning = true := hruns y (hy ▸ List.mem_singleton_self y)
      rw [List.flatMap_append, List.append_assoc]
      exact (congrArg _ (hstore hruns)).trans (hall (hchunks hyruns).1)
    · obtain rfl : z = y := List.mem_singleton.1 (hy ▸ hz)
      obtain ⟨hxruns, hcount⟩ := hchunks hruns
      rw [List.length_append, hcount, h.numbered x hx hxruns]
    · exact absurd (hy.symm.trans hnone) (by simp)
  · rw [hsessions] at hlength
    simp only [List.length_cons] at hlength
    omega

/-- What a target sends is in store. -/
theorem Inbound.emit {c : Circuit σ τ} {sent : Bytes} {chunks : List Payload}
    (h : c.Inbound sent chunks) (session : Nat) (event : Source.Event) :
    ({ c with sources := setSource c.sources session (c.sources session ++ [event]) }).Inbound
      (sent ++ Circuit.sent 0 [(.emit session event : Event σ τ)]) chunks := by
  have hsent : Circuit.sent 0 [(.emit session event : Event σ τ)] =
      if session = 0 then Source.bytes [event] else [] := by
    cases event <;> simp [Circuit.sent, Source.bytes]
  refine ⟨h.follows, h.data.trans (List.prefix_append _ _), fun hruns => ?_, h.numbered, h.fresh,
    h.carries⟩
  have hcurrent := h.current hruns
  rw [hsent]
  simp only [setSource]
  by_cases hs : session = 0
  · subst hs
    rw [if_pos rfl, if_pos rfl, ← hcurrent, Source.bytes, List.flatMap_append, ← List.append_assoc]
    rfl
  · rw [if_neg (Ne.symm hs), if_neg hs, List.append_nil]
    exact hcurrent

/-- A read takes the next chunk out of store. -/
theorem Inbound.read [Sink τ] {c : Circuit σ τ} {sent : Bytes} {chunks : List Payload}
    (h : c.Inbound sent chunks) {session : Nat} {x : Session τ}
    (hx : c.server.sessions[session]? = some x) (hreading : x.phase = .reading)
    (hone : (c.server.step (.read session (c.sources session).read.1)).1.sessions.length ≤ 1) :
    ∃ chunks', ({ c with
      sources := setSource c.sources session (c.sources session).read.2 }.far
        (.read session (c.sources session).read.1)).Inbound sent chunks' := by
  have hlength := Server.length_sessions_step c.server (.read session (c.sources session).read.1)
  have hlt := (List.getElem?_eq_some_iff.1 hx).1
  obtain rfl : session = 0 := by omega
  have hdrawn : c.server.drawn (.read 0 (c.sources 0).read.1) =
      x.drawn (.read (c.sources 0).read.1) := by
    rw [Server.drawn, hx]
    rfl
  refine ⟨_, h.far hone _ ?_ fun hruns => ?_⟩
  · rw [hdrawn]
    exact Session.drawn_read_prefix x _
  · have hy := Server.getElem?_step hx (.read 0 (c.sources 0).read.1)
    rw [hdrawn, setSource, if_pos rfl]
    exact Session.store_read c.server.timeouts c.server.clock x hreading _
      (hruns _ (List.mem_of_getElem? hy))

/-! ## All events -/

/-- **Every event keeps the stream from the target**, as long as there is one session. -/
theorem Inbound.step [Sink σ] [Sink τ] {c : Circuit σ τ} {sent : Bytes} {chunks : List Payload}
    (h : c.Inbound sent chunks) (hnumbered : c.Numbered) (event : Event σ τ)
    (hone : (c.step event).server.sessions.length ≤ 1) :
    ∃ chunks', (c.step event).Inbound (sent ++ Circuit.sent 0 [event]) chunks' := by
  have hsame : ∀ {d : Circuit σ τ}, d.Inbound sent chunks →
      ∃ chunks', d.Inbound (sent ++ []) chunks' :=
    fun hd => ⟨chunks, (List.append_nil sent).symm ▸ hd⟩
  -- events of the server that read nothing
  have hfar : ∀ {d : Circuit σ τ} {e : Server.Event τ}, d.Inbound sent chunks →
      d.server.drawn e = [] → (d.server.step e).1.sessions.length ≤ 1 →
      (d.far e).Inbound sent chunks := by
    intro d e hd hnone hlength
    have hafter := hd.far hlength d.sources (by rw [hnone]; exact List.nil_prefix)
      (fun _ => by rw [hnone]; rfl)
    rwa [hnone, List.append_nil] at hafter
  cases event with
  | write data | close | device device | fail number => exact hsame (h.near fun _ _ heq => by cases heq)
  | request number target =>
    simp only [Circuit.step] at hone ⊢
    cases hlookup : c.requests.lookup number with
    | none => exact hsame h
    | some kind =>
      rw [hlookup] at hone
      refine hsame (hfar ?_ rfl hone)
      exact ⟨h.follows, h.data, h.current, h.numbered, h.fresh, h.carries⟩
  | server event =>
    simp only [Circuit.step] at hone ⊢
    split
    · rename_i hown
      rw [if_pos hown] at hone
      exact hsame (hfar h (by cases event <;> first | rfl | cases hown) hone)
    · exact hsame h
  | emit session event => exact ⟨chunks, h.emit session event⟩
  | read session =>
    simp only [Circuit.step] at hone ⊢
    cases hx : c.server.sessions[session]? with
    | none => exact hsame h
    | some x =>
      rw [hx] at hone
      dsimp only at hone ⊢
      split
      · rename_i hreading
        rw [if_pos hreading] at hone
        obtain ⟨chunks', hread⟩ := h.read hx hreading hone
        exact ⟨chunks', (List.append_nil sent).symm ▸ hread⟩
      · exact hsame h
  | head number =>
    simp only [Circuit.step]
    cases hlookup : c.answers.lookup number with
    | none => exact hsame h
    | some answer =>
      refine hsame ((h.moved fun p => ?_).near fun _ _ heq => by cases heq)
      have := count_chunksOf_without hlookup p
      rw [chunksOf_append, List.count_append]
      omega
  | body number =>
    simp only [Circuit.step]
    cases hlookup : c.bodies.lookup number with
    | none => exact hsame h
    | some answer => exact hsame (h.body hnumbered hlookup)
  | cut number cause =>
    refine hsame ((h.moved fun p => ?_).near fun _ _ heq => by cases heq)
    exact Nat.add_le_add_left ((List.filter_sublist.filterMap _).count_le p) _

end Circuit
end Tunnel
end PollTunnel
