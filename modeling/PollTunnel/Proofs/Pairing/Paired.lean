import PollTunnel.Proofs.Lists
import PollTunnel.Proofs.Pairing.Payloads
import PollTunnel.Tunnel.Channel

/-!
# Channels and target connections

Channels are told apart by nothing that they send.  So whether every channel has a target connection
of its own is not up to the server: it goes by the order in which requests come and sessions leave
their place.  `Paired` is what is wished for, and `Orderly` is the order in which it comes true, and
no other (`paired_iff_orderly`).  `not_paired` shows two ways to miss it.

What the server does see to, in every order, is `Served`: each request is served by one session from
its arrival on, a session opens when no other connection is left, and no session has a part in the
stream of another.
-/

set_option autoImplicit false

namespace PollTunnel
namespace Tunnel
namespace Server

variable {σ κ : Type} [Sink σ]

/-! ## What holds in every run -/

/-- **What sessions do for requests, in any run** that leads from `start` through the events. -/
structure Served (start : Server σ) (events : List (Event σ)) : Prop where
  /-- Whatever is done for a request is done by the session that has its turn when it arrives. -/
  turn : ∀ a ∈ start.log events, (a.number, a.session) ∈ start.turns 0 events
  /-- So it is done by one session. -/
  one : ∀ a ∈ start.log events, ∀ b ∈ start.log events, a.number = b.number →
    a.session = b.session
  /-- A session opens only when no other is in place and every connection is shut down. -/
  opens : ∀ before event after, events = before ++ event :: after →
    ∀ a ∈ (start.run before).1.services event, a.deed = .opens →
    (start.run before).1.current = none ∧ a.session = (start.run before).1.sessions.length ∧
      ∀ x ∈ (start.run before).1.sessions, x.phase = .shutDown
  /-- The stream towards a target moves only for a request that its session serves. -/
  moves : ∀ before event after, events = before ++ event :: after →
    ∀ (k : Nat) (x : Session σ), (start.run before).1.sessions[k]? = some x →
    ∃ y, ((start.run before).1.step event).1.sessions[k]? = some y ∧
      ((∃ a ∈ (start.run before).1.services event, a.session = k ∧
          ∃ p, a.payload? = some p ∧ y.forwarder = (x.forwarder.forward p).2) ∨
        x.forwarder.SameStream y.forwarder)
  /-- A payload is dropped as a duplicate only if the same session passed on its number before. -/
  drops : ∀ before event after, events = before ++ event :: after →
    ∀ a ∈ (start.run before).1.services event, ∀ p, a.payload? = some p →
    ∀ x : Session σ, (start.run before).1.sessions[a.session]? = some x →
    x.forwarder.Drops p.sequence →
    ∃ b ∈ start.log before, b.session = a.session ∧
      ∃ q, b.payload? = some q ∧ q.sequence = p.sequence
  /-- What a requester takes was read from the target of the session that serves it. -/
  reads : ∀ number p, .answer number (.payload p) true ∈ (start.run events).2 →
    ∃ k, ⟨number, k, .answers (.payload p) true⟩ ∈ start.log events ∧
      p ∈ start.readings k events

theorem served_run (timeouts : Timeouts) (events : List (Event σ))
    (hnew : (arrivals events).Nodup) : Served (ofTimeouts timeouts) events := by
  have htidy := tidy_ofTimeouts (σ := σ) timeouts
  have hsingle := single_ofTimeouts (σ := σ) timeouts
  have hturn : ∀ a ∈ (ofTimeouts timeouts).log events,
      (a.number, a.session) ∈ (ofTimeouts timeouts).turns 0 events := by
    intro a ha
    -- nobody is with a session when there is none
    refine (mem_log htidy hsingle ha).resolve_left fun hattends => ?_
    rcases hattends with ⟨visit, hvisit, -⟩ | hwaits
    · exact absurd hvisit List.not_mem_nil
    · exact absurd hwaits List.not_mem_nil
  refine ⟨hturn, fun a ha b hb hnumber => ?_, ?_, ?_, ?_, fun number p hanswer => ?_⟩
  · have honce := Nat.le_trans (count_turns_le (ofTimeouts timeouts) 0 events a.number)
      (List.nodup_iff_count.1 hnew a.number)
    have heq := eq_of_count_map_le_one honce (hturn a ha) (hturn b hb) rfl hnumber.symm
    exact (Prod.mk.inj heq).2
  · rintro before event after - a ha hopens
    obtain ⟨hcurrent, hsession, -⟩ := session_of_opens ha hopens
    refine ⟨hcurrent, hsession, fun x hx => ?_⟩
    obtain ⟨k, hk⟩ := List.mem_iff_getElem?.1 hx
    exact (hsingle.run before).others k x hk (by rw [hcurrent]; nofun)
  · rintro before event after - k x hx
    exact forwarder_services hx event
  · rintro before event after - a ha p hp x hx hdrops
    refine (exists_service_of_drops hx p.sequence_pos hdrops).resolve_left ?_
    rintro ⟨y, hy, -⟩
    have hnone : (none : Option (Session σ)) = some y := hy
    cases hnone
  · have hholds : (ofTimeouts timeouts : Server σ).HoldsOnly fun _ => [] :=
      fun k x hx => absurd (List.mem_of_getElem? hx) List.not_mem_nil
    exact exists_reading hholds hanswer

/-! ## What holds in an orderly run -/

/-- **Channels and target connections are paired one to one.**  `channel` says of a request to which
channel it belongs. -/
structure Paired (channel : Nat → κ) (start : Server σ) (events : List (Event σ)) : Prop where
  /-- A session serves the requests of one channel, and a channel's requests are served by one
  session. -/
  oneToOne : ∀ a ∈ start.log events, ∀ b ∈ start.log events,
    a.session = b.session ↔ channel a.number = channel b.number
  /-- No channel has a second session opened. -/
  opensOnce : ∀ a ∈ start.log events, ∀ b ∈ start.log events, a.deed = .opens → b.deed = .opens →
    channel a.number = channel b.number → a.number = b.number
  /-- A payload is dropped as a duplicate only if its channel used the number for the same session
  before. -/
  drops : ∀ before event after, events = before ++ event :: after →
    ∀ a ∈ (start.run before).1.services event, ∀ p, a.payload? = some p →
    ∀ x : Session σ, (start.run before).1.sessions[a.session]? = some x →
    x.forwarder.Drops p.sequence →
    ∃ b ∈ start.log before, b.session = a.session ∧ channel b.number = channel a.number ∧
      ∃ q, b.payload? = some q ∧ q.sequence = p.sequence
  /-- What a channel takes was read from the target of the session that serves it. -/
  reads : ∀ number p, .answer number (.payload p) true ∈ (start.run events).2 →
    ∃ k, p ∈ start.readings k events ∧
      ∀ a ∈ start.log events, channel a.number = channel number ↔ a.session = k

/-- **Sessions leave their place between channels only.**  As many did so before one request as
before another exactly if both are of one channel.  `orderly_iff_separated` says the same of the
events between two requests. -/
def Orderly (channel : Nat → κ) (start : Server σ) (events : List (Event σ)) : Prop :=
  ∀ a ∈ start.turns 0 events, ∀ b ∈ start.turns 0 events,
    a.2 = b.2 ↔ channel a.1 = channel b.1

/-- A request is listed with the number of sessions that left their place before it came. -/
theorem mem_turns_iff {s : Server σ} {left number turn : Nat} {events : List (Event σ)} :
    (number, turn) ∈ s.turns left events ↔
      ∃ before event after, events = before ++ event :: after ∧
        (∃ visit ∈ (s.run before).1.visiting event, visit.number = number) ∧
        turn = left + (clearances (s.run before).2).length := by
  induction events generalizing s left with
  | nil => simp [turns]
  | cons first rest ih =>
    rw [turns, List.mem_append, ih]
    constructor
    · rintro (hfirst | ⟨before, event, after, rfl, hvisit, rfl⟩)
      · obtain ⟨visit, hvisit, heq⟩ := List.mem_map.1 hfirst
        obtain ⟨rfl, rfl⟩ := Prod.mk.inj heq
        exact ⟨[], first, rest, rfl, ⟨visit, hvisit, rfl⟩, rfl⟩
      · refine ⟨first :: before, event, after, rfl, hvisit, ?_⟩
        rw [run_cons, clearances_append, List.length_append, Nat.add_assoc]
    · rintro ⟨before, event, after, heq, ⟨visit, hvisit, rfl⟩, rfl⟩
      cases before with
      | nil =>
        obtain ⟨rfl, rfl⟩ := List.cons.inj heq
        exact .inl (List.mem_map.2 ⟨visit, hvisit, rfl⟩)
      | cons other before =>
        obtain ⟨rfl, rfl⟩ := List.cons.inj heq
        refine .inr ⟨before, event, after, rfl, ⟨visit, hvisit, rfl⟩, ?_⟩
        rw [run_cons, clearances_append, List.length_append, Nat.add_assoc]

/-- Between two requests that are given a session, one that leaves its place is there exactly if the
two are of different channels. -/
def Separated (channel : Nat → κ) (start : Server σ) (events : List (Event σ)) : Prop :=
  ∀ before first between second after,
    events = before ++ first :: between ++ second :: after →
    ∀ v ∈ (start.run before).1.visiting first,
    ∀ w ∈ (start.run (before ++ first :: between)).1.visiting second,
      clearances ((start.run before).1.run (first :: between)).2 = [] ↔
        channel v.number = channel w.number

/-- A request and one that does not come before it. -/
theorem Separated.turns_eq_iff {channel : Nat → κ} {start : Server σ}
    {before middle after rest : List (Event σ)} {first second : Event σ} {v w : Visit}
    (h : Separated channel start (before ++ middle ++ second :: after))
    (hfirst : middle ++ second :: after = first :: rest)
    (hv : v ∈ (start.run before).1.visiting first)
    (hw : w ∈ (start.run (before ++ middle)).1.visiting second) :
    (clearances (start.run before).2).length =
        (clearances (start.run (before ++ middle)).2).length ↔
      channel v.number = channel w.number := by
  cases middle with
  | nil =>
    -- both are the same request
    rw [List.append_nil] at hw ⊢
    obtain ⟨rfl, -⟩ := List.cons.inj hfirst
    exact iff_of_true rfl (by rw [eq_of_mem_visiting hv hw])
  | cons other between =>
    obtain ⟨rfl, -⟩ := List.cons.inj hfirst
    rw [← h before other between second after rfl v hv w hw, run_append, clearances_append,
      List.length_append, ← List.length_eq_zero_iff]
    omega

/-- **A run is orderly if sessions leave their place between the requests of different channels**,
and never between those of one. -/
theorem orderly_iff_separated {channel : Nat → κ} {start : Server σ} {events : List (Event σ)} :
    Orderly channel start events ↔ Separated channel start events := by
  constructor
  · rintro h before first between second after rfl v hv w hw
    have horder := h (v.number, _)
      (mem_turns_iff.2 ⟨before, first, _, List.append_assoc _ _ _, ⟨v, hv, rfl⟩, rfl⟩) (w.number, _)
      (mem_turns_iff.2 ⟨_, second, after, rfl, ⟨w, hw, rfl⟩, rfl⟩)
    rw [← horder, run_append, clearances_append, List.length_append, ← List.length_eq_zero_iff]
    omega
  · rintro h ⟨m, _⟩ hm ⟨n, _⟩ hn
    obtain ⟨before, first, after, hfirst, ⟨v, hv, rfl⟩, rfl⟩ := mem_turns_iff.1 hm
    obtain ⟨before', second, after', hsecond, ⟨w, hw, rfl⟩, rfl⟩ := mem_turns_iff.1 hn
    simp only [Nat.zero_add]
    obtain ⟨middle, rfl, hrest⟩ | ⟨middle, rfl, hrest⟩ :=
      List.append_eq_append_iff.1 (hfirst.symm.trans hsecond)
    · exact (hsecond ▸ h).turns_eq_iff hrest.symm hv hw
    · have hswapped := (hfirst ▸ h).turns_eq_iff hrest.symm hw hv
      rw [eq_comm, hswapped, eq_comm]

theorem Paired.orderly {channel : Nat → κ} {timeouts : Timeouts} {events : List (Event σ)}
    (h : Paired channel (ofTimeouts timeouts) events) :
    Orderly channel (ofTimeouts timeouts) events := by
  rintro ⟨m, j⟩ hm ⟨n, k⟩ hn
  obtain ⟨a, ha, rfl, rfl⟩ := exists_service_of_turns (single_ofTimeouts timeouts) hm
  obtain ⟨b, hb, rfl, rfl⟩ := exists_service_of_turns (single_ofTimeouts timeouts) hn
  exact h.oneToOne a ha b hb

theorem Orderly.paired {channel : Nat → κ} {timeouts : Timeouts} {events : List (Event σ)}
    (h : Orderly channel (ofTimeouts timeouts) events) (hserved : Served (ofTimeouts timeouts) events) :
    Paired channel (ofTimeouts timeouts) events := by
  have honeToOne : ∀ a ∈ (ofTimeouts timeouts).log events, ∀ b ∈ (ofTimeouts timeouts).log events,
      a.session = b.session ↔ channel a.number = channel b.number := fun a ha b hb =>
    h _ (hserved.turn a ha) _ (hserved.turn b hb)
  refine ⟨honeToOne, fun a ha b hb hopensa hopensb hchannel => ?_, ?_, fun number p hanswer => ?_⟩
  · exact number_eq_of_opens ha hb hopensa hopensb ((honeToOne a ha b hb).2 hchannel)
  · rintro before event after rfl a ha p hp x hx hdrops
    obtain ⟨b, hb, hsession, hpayload⟩ := hserved.drops before event after rfl a ha p hp x hx hdrops
    refine ⟨b, hb, hsession, ?_, hpayload⟩
    have hb' : b ∈ (ofTimeouts timeouts).log (before ++ event :: after) := by
      rw [log_append]
      exact List.mem_append_left _ hb
    exact (honeToOne b hb' a (mem_log_of_mem_services ha)).1 hsession
  · obtain ⟨k, hservice, hp⟩ := hserved.reads number p hanswer
    exact ⟨k, hp, fun a ha => (honeToOne a ha _ hservice).symm⟩

/-- **Channels and target connections are paired one to one exactly in the orderly runs.**  In all
runs, a request is served by the session whose turn it finds. -/
theorem paired_iff_orderly (timeouts : Timeouts) (events : List (Event σ))
    (hnew : (arrivals events).Nodup) :
    Served (ofTimeouts timeouts) events ∧
      ∀ channel : Nat → κ, Paired channel (ofTimeouts timeouts) events ↔
        Orderly channel (ofTimeouts timeouts) events := by
  have hserved := served_run timeouts events hnew
  exact ⟨hserved, fun channel => ⟨Paired.orderly, fun horderly => horderly.paired hserved⟩⟩

/-- Two channels one after the other, both of which start to count from one. -/
theorem paired_one_after_another :
    let endpoint : Endpoint := ⟨⟨"", .domain "far", none, "/", none, none⟩, []⟩
    let message (kind : Channel.Kind) : Message := (kind.request endpoint).toMessage
    let events : List (Event SoundSink) :=
      [.arrive 1 (message .poll) (some ⟨⟩), .join 1,
        .arrive 2 (message (.post ⟨1, [97], by decide, by decide⟩)) none, .join 2, .forward 2,
        .arrive 3 (message .disconnect) none, .join 3, .disconnect 3, .notice 0, .release 0,
        .shutDown 0, .clear 0, .arrive 4 (message .poll) (some ⟨⟩), .join 4,
        .arrive 5 (message (.post ⟨1, [98], by decide, by decide⟩)) none, .join 5, .forward 5]
    (arrivals events).Nodup ∧ Served (ofTimeouts {}) events ∧
      Paired (fun number => decide (number ≤ 3)) (ofTimeouts {}) events ∧
      ((ofTimeouts {}).run events).1.sessions.map (·.forwarder.outlet.written) = [[97], [98]] := by
  intro endpoint message events
  have hnew : (arrivals events).Nodup := by decide
  obtain ⟨hserved, hpaired⟩ := paired_iff_orderly (κ := Bool) {} events hnew
  have horderly : Orderly (fun number => decide (number ≤ 3)) (ofTimeouts {}) events := by
    rw [Orderly]
    decide +kernel
  exact ⟨hnew, hserved, (hpaired _).2 horderly, by decide +kernel⟩

/-- A channel's payload that comes late has a second session opened, and a payload of a channel that
comes early is lost. -/
theorem not_paired :
    let endpoint : Endpoint := ⟨⟨"", .domain "far", none, "/", none, none⟩, []⟩
    let message (kind : Channel.Kind) : Message := (kind.request endpoint).toMessage
    let late : List (Event SoundSink) :=
      [.arrive 1 (message .poll) (some ⟨⟩), .join 1, .read 0 (.error .targetClosed), .release 0,
        .shutDown 0, .clear 0, .arrive 2 (message (.post ⟨1, [97], by decide, by decide⟩)) (some ⟨⟩),
        .join 2, .forward 2]
    let early : List (Event SoundSink) :=
      [.arrive 1 (message .poll) (some ⟨⟩), .join 1,
        .arrive 2 (message (.post ⟨1, [97], by decide, by decide⟩)) none, .join 2, .forward 2,
        .arrive 3 (message .poll) none, .join 3,
        .arrive 4 (message (.post ⟨1, [98], by decide, by decide⟩)) none, .join 4, .forward 4]
    ((arrivals late).Nodup ∧ ¬ Paired (fun _ => ()) (ofTimeouts {}) late ∧
      ((ofTimeouts {}).run late).1.sessions.map (·.forwarder.outlet.written) = [[], [97]]) ∧
    ((arrivals early).Nodup ∧
      ¬ Paired (fun number => decide (number ≤ 2)) (ofTimeouts {}) early ∧
      ((ofTimeouts {}).run early).1.sessions.map (·.forwarder.outlet.written) = [[97]]) := by
  intro endpoint message late early
  refine ⟨⟨by decide, fun h => ?_, by decide +kernel⟩, by decide, fun h => ?_, by decide +kernel⟩
  · have hturns : (1, 0) ∈ (ofTimeouts {}).turns 0 late ∧ (2, 1) ∈ (ofTimeouts {}).turns 0 late := by
      decide +kernel
    exact absurd ((h.orderly _ hturns.1 _ hturns.2).2 rfl) (by decide)
  · have hturns : (2, 0) ∈ (ofTimeouts {}).turns 0 early ∧ (4, 0) ∈ (ofTimeouts {}).turns 0 early := by
      decide +kernel
    exact absurd ((h.orderly _ hturns.1 _ hturns.2).1 rfl) (by decide)

end Server
end Tunnel
end PollTunnel
