import PollTunnel.Proofs.Circuit.Basic

/-!
# The stream towards the target

The payloads that the channel posts are numbered one after another, and their bytes are what was
written to it.  Each of them is under way, or on its way to a session, or was given to one: never in
two of these places (`Outbound.underway`).  So what a session was given is no more than was posted,
and its forwarder carries the stream (`Outbound.carries`).

`Outbound.step` is that every event keeps this.
-/

set_option autoImplicit false

namespace PollTunnel
namespace Tunnel
namespace Circuit

variable {σ τ : Type}

/-- The payloads of requests that are under way. -/
def payloadsOf (requests : List (Nat × Channel.Kind)) : List Payload :=
  requests.filterMap (·.2.payload?)

/-- The payloads that are between the channel and a session. -/
def outgoing (c : Circuit σ τ) : List Payload := payloadsOf c.requests ++ c.server.load

/-- The channel has posted `posts`, and what it was told begins with their bytes. -/
structure Outbound (c : Circuit σ τ) (said : Bytes) (posts : List Payload) : Prop where
  follows : Forwarder.Follows 0 posts
  data : posts.flatMap (·.data) <+: said
  /-- Until the channel closes or runs out of numbers it posts all that it is told. -/
  current : c.channel.isOpen = true → c.channel.written ≤ maxSequence →
    posts.length = c.channel.written ∧ posts.flatMap (·.data) = said
  /-- Nothing is under way twice. -/
  underway : ∀ p, c.outgoing.count p ≤ posts.count p
  /-- What a session was given is not under way any more. -/
  carries : ∀ (k : Nat) (x : Session τ), c.server.sessions[k]? = some x → ∃ seen part,
    Forwarder.Carries seen part x.forwarder ∧
      ∀ p, c.outgoing.count p + seen.count p ≤ posts.count p

theorem payloadsOf_append (a b : List (Nat × Channel.Kind)) :
    payloadsOf (a ++ b) = payloadsOf a ++ payloadsOf b :=
  List.filterMap_append

/-- A request that is taken out takes its payload with it. -/
theorem count_payloadsOf_without {requests : List (Nat × Channel.Kind)} {number : Nat}
    {kind : Channel.Kind} (h : requests.lookup number = some kind) (p : Payload) :
    (payloadsOf (without requests number)).count p + kind.payload?.toList.count p ≤
      (payloadsOf requests).count p :=
  count_filterMap_filter_ne (k := Prod.fst) (mem_of_lookup h) p

/-! ## Steps of the channel -/

/-- An event that posts nothing changes nothing. -/
theorem Outbound.near [Sink σ] {c : Circuit σ τ} {said : Bytes} {posts : List Payload}
    (h : c.Outbound said posts) {event : Channel.Event σ} (hne : ∀ data, event ≠ .write data) :
    (c.near event).Outbound said posts := by
  obtain ⟨hwritten, hposts⟩ := Channel.step_quiet c.channel hne
  have hnone : payloadsOf (Channel.started (c.channel.step event).2) = [] := hposts
  have houtgoing : (c.near event).outgoing = c.outgoing := by
    rw [outgoing, outgoing, Circuit.near, payloadsOf_append, hnone, List.append_nil]
  refine ⟨h.follows, h.data, fun hopen' hle => ?_, houtgoing ▸ h.underway, houtgoing ▸ h.carries⟩
  rw [Circuit.near, hwritten] at hle ⊢
  exact h.current ((Channel.step_comes c.channel event).isOpen hopen') hle

/-- A write posts its data under the next number, or nothing any more. -/
theorem Outbound.write [Sink σ] {c : Circuit σ τ} {said : Bytes} {posts : List Payload}
    (h : c.Outbound said posts) (data : Bytes) :
    ∃ posts', (c.near (.write data)).Outbound (said ++ data) posts' := by
  have hdata : posts.flatMap (·.data) <+: said ++ data := h.data.trans (List.prefix_append _ _)
  rcases Channel.write_cases c.channel data with ⟨heq, hwhy⟩ | ⟨-, hlarge, heq⟩ |
    ⟨p, hopen, hsequence, hp, heq⟩
  · have hsame : c.near (.write data) = c := by
      rw [Circuit.near, heq]
      simp [Channel.started]
    rw [hsame]
    refine ⟨posts, h.follows, hdata, fun hopen hle => ?_, h.underway, h.carries⟩
    rcases hwhy with hclosed | rfl
    · rw [hopen] at hclosed
      cases hclosed
    · rw [List.append_nil]
      exact h.current hopen hle
  · have houtgoing : (c.near (.write data)).outgoing = c.outgoing := by
      rw [outgoing, outgoing, Circuit.near, heq, payloadsOf_append]
      simp [Channel.started, payloadsOf]
    refine ⟨posts, h.follows, hdata, fun _ hle => ?_, houtgoing ▸ h.underway,
      houtgoing ▸ h.carries⟩
    rw [Circuit.near, heq] at hle
    exact absurd hle (Nat.not_le_of_lt hlarge)
  · have hle := p.sequence_le
    obtain ⟨hlength, hall⟩ := h.current hopen (by omega)
    have houtgoing : ∀ q, (c.near (.write data)).outgoing.count q =
        c.outgoing.count q + [p].count q := by
      intro q
      rw [outgoing, outgoing, Circuit.near, heq, payloadsOf_append]
      simp only [Channel.start, Channel.started, List.filterMap_cons, List.filterMap_nil, payloadsOf,
        Channel.Kind.payload?, List.count_append]
      omega
    have hcount : ∀ q, (posts ++ [p]).count q = posts.count q + [p].count q := fun q =>
      List.count_append
    have hsaid : (posts ++ [p]).flatMap (·.data) = said ++ data := by
      rw [List.flatMap_append, hall, List.flatMap_singleton, hp]
    refine ⟨posts ++ [p], h.follows.append_singleton (by omega), hsaid ▸ List.prefix_refl _,
      fun _ _ => ⟨?_, hsaid⟩, fun q => ?_, fun k x hx => ?_⟩
    · have hwritten : (c.near (.write data)).channel.written = c.channel.written + 1 := by
        rw [Circuit.near, heq]
        rfl
      rw [List.length_append, List.length_singleton, hlength, hwritten]
    · have := h.underway q
      rw [houtgoing, hcount]
      omega
    · obtain ⟨seen, part, hcarries, hseen⟩ := h.carries k x hx
      refine ⟨seen, part, hcarries, fun q => ?_⟩
      have := hseen q
      rw [houtgoing, hcount]
      omega

/-! ## Steps of the server -/

/-- A step of the server, before which a request may have been taken out with what it brings. -/
theorem outbound_far [Sink τ] {c : Circuit σ τ} {event : Server.Event τ} {said : Bytes}
    {posts : List Payload} (hfollows : Forwarder.Follows 0 posts)
    (hdata : posts.flatMap (·.data) <+: said)
    (hcurrent : c.channel.isOpen = true → c.channel.written ≤ maxSequence →
      posts.length = c.channel.written ∧ posts.flatMap (·.data) = said)
    (hunderway : ∀ p, c.outgoing.count p + (Server.brought event).count p ≤ posts.count p)
    (hcarries : ∀ (k : Nat) (x : Session τ), c.server.sessions[k]? = some x → ∃ seen part,
      Forwarder.Carries seen part x.forwarder ∧
        ∀ p, c.outgoing.count p + (Server.brought event).count p + seen.count p ≤ posts.count p) :
    (c.far event).Outbound said posts := by
  have houtgoing : ∀ p, (c.far event).outgoing.count p + (c.server.given event).count p ≤
      c.outgoing.count p + (Server.brought event).count p := by
    intro p
    have := Server.load_step c.server event p
    rw [outgoing, outgoing, far, List.count_append, List.count_append]
    dsimp only
    omega
  refine ⟨hfollows, hdata, hcurrent, fun p => ?_, fun k y hy => ?_⟩
  · have := hunderway p
    have := houtgoing p
    omega
  · cases hx : c.server.sessions[k]? with
    | none =>
      obtain ⟨device, rfl⟩ := Server.eq_start_of_new hx hy
      refine ⟨[], [], Forwarder.carries_onto device, fun p => ?_⟩
      have := hunderway p
      have := houtgoing p
      rw [List.count_nil]
      omega
    | some x =>
      obtain ⟨seen, part, hseen, hcount⟩ := hcarries k x hx
      obtain ⟨y', hy', hforwarder⟩ := Server.forwarder_step_cases hx event
      obtain rfl : y = y' := Option.some.inj (hy.symm.trans hy')
      rcases hforwarder with ⟨action, p, haction, hpassed, hforward⟩ | hsame
      · have hgiven := Server.given_of_action? haction hpassed
        have hafter : ∀ q, (c.far event).outgoing.count q + (seen ++ [p]).count q ≤
            posts.count q := by
          intro q
          have := hcount q
          have := houtgoing q
          rw [hgiven] at this
          rw [List.count_append]
          omega
        obtain ⟨part', hcarries'⟩ := hseen.forward_of_count hfollows.nodup fun q =>
          Nat.le_trans (Nat.le_add_left _ _) (hafter q)
        exact ⟨seen ++ [p], part', hforward ▸ hcarries', hafter⟩
      · refine ⟨seen, part, hseen.of_same hsame, fun p => ?_⟩
        have := hcount p
        have := houtgoing p
        omega

/-- A request brings the server what it was posted with. -/
theorem Outbound.request [Sink τ] {c : Circuit σ τ} {said : Bytes} {posts : List Payload}
    (h : c.Outbound said posts) {number : Nat} {kind : Channel.Kind}
    (hlookup : c.requests.lookup number = some kind) (target : Option τ) :
    ({ c with requests := without c.requests number }.far
      (.arrive number (kind.request c.endpoint).toMessage target)).Outbound said posts := by
  have houtgoing : ∀ p, { c with requests := without c.requests number }.outgoing.count p +
      (Server.brought (.arrive number (kind.request c.endpoint).toMessage target)).count p ≤
        c.outgoing.count p := by
    intro p
    have hwithout := count_payloadsOf_without hlookup p
    have hbrought : (Server.brought (.arrive number (kind.request c.endpoint).toMessage
        target)).count p ≤ kind.payload?.toList.count p := by
      rw [Server.brought]
      split
      · rename_i q hreceived
        rw [Channel.Kind.ofMessage_request c.endpoint kind hreceived]
        exact Nat.le_refl _
      · exact Nat.zero_le _
    rw [outgoing, outgoing, List.count_append, List.count_append]
    dsimp only
    omega
  refine outbound_far h.follows h.data h.current (fun p => ?_) fun k x hx => ?_
  · exact Nat.le_trans (houtgoing p) (h.underway p)
  · obtain ⟨seen, part, hcarries, hcount⟩ := h.carries k x hx
    exact ⟨seen, part, hcarries, fun p =>
      Nat.le_trans (Nat.add_le_add_right (houtgoing p) _) (hcount p)⟩

/-! ## All events -/

/-- **Every event keeps the stream towards the target.** -/
theorem Outbound.step [Sink σ] [Sink τ] {c : Circuit σ τ} {said : Bytes} {posts : List Payload}
    (h : c.Outbound said posts) (event : Event σ τ) :
    ∃ posts', (c.step event).Outbound (said ++ Circuit.said [event]) posts' := by
  -- events of the server that bring nothing
  have hfar : ∀ (sources : Nat → Source) {e : Server.Event τ}, Server.brought e = [] →
      ({ c with sources }.far e).Outbound said posts := by
    intro sources e hbrought
    refine outbound_far h.follows h.data h.current ?_ ?_ <;> rw [hbrought]
    · exact h.underway
    · exact h.carries
  have hsame : ∀ {d : Circuit σ τ}, d.Outbound said posts →
      ∃ posts', d.Outbound (said ++ []) posts' :=
    fun hd => ⟨posts, (List.append_nil said).symm ▸ hd⟩
  -- answers have no part in this
  have hmoved : ∀ answers bodies, { c with answers, bodies }.Outbound said posts :=
    fun _ _ => ⟨h.follows, h.data, h.current, h.underway, h.carries⟩
  cases event with
  | write data =>
    rw [Circuit.said, List.flatMap_singleton]
    exact h.write data
  | close | device device | fail number => exact hsame (h.near fun _ heq => by cases heq)
  | request number target =>
    refine hsame ?_
    simp only [Circuit.step]
    cases hlookup : c.requests.lookup number with
    | none => exact h
    | some kind => exact h.request hlookup target
  | server event =>
    refine hsame ?_
    simp only [Circuit.step]
    split
    · rename_i hown
      exact hfar c.sources (by cases event <;> first | rfl | cases hown)
    · exact h
  | emit session event => exact hsame ⟨h.follows, h.data, h.current, h.underway, h.carries⟩
  | read session =>
    refine hsame ?_
    simp only [Circuit.step]
    split
    · split
      · exact hfar _ rfl
      · exact h
    · exact h
  | head number =>
    refine hsame ?_
    simp only [Circuit.step]
    cases c.answers.lookup number with
    | none => exact h
    | some answer => exact (hmoved _ _).near fun _ heq => by cases heq
  | body number =>
    refine hsame ?_
    simp only [Circuit.step]
    cases c.bodies.lookup number with
    | none => exact h
    | some answer => exact (hmoved _ _).near fun _ heq => by cases heq
  | cut number cause => exact hsame ((hmoved _ _).near fun _ heq => by cases heq)

end Circuit
end Tunnel
end PollTunnel
