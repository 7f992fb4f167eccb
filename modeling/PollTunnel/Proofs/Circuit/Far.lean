import PollTunnel.Proofs.Delivery.Sources
import PollTunnel.Proofs.Delivery.Stream
import PollTunnel.Proofs.Lists
import PollTunnel.Proofs.Requests.Ledger

/-!
# What a session passes on and what it hands out

Two streams run through a session.  Towards the target, only two events give a payload to its
forwarder (`Session.passedOn?`).  From the target, a chunk is numbered when it is read
(`Session.drawn`), and from then on it is held or it is handed to one requester, never both and
never twice (`Session.flow_step`).

The same holds for the server as a whole.  A payload that a request brought is on its way to one
session, or was given to one (`Server.load_step`), and a chunk is held or handed out
(`Server.flow_step`).
-/

set_option autoImplicit false

namespace PollTunnel
namespace Tunnel

/-- The payloads that requesters who are still there are answered. -/
def Reply.handed (replies : List Reply) : List Payload :=
  replies.filterMap fun r =>
    match r.answer, r.waiter.present with
    | .payload p, true => some p
    | _, _ => none

theorem Reply.handed_append (a b : List Reply) :
    Reply.handed (a ++ b) = Reply.handed a ++ Reply.handed b :=
  List.filterMap_append

/-- A bare status hands out nothing. -/
theorem Reply.handed_answerAll (status : Status) (waiters : List Waiter) :
    Reply.handed (Waiting.answerAll status waiters) = [] := by
  rw [Reply.handed, Waiting.answerAll, List.filterMap_map]
  exact List.filterMap_eq_nil_iff.2 fun _ _ => rfl

/-- A chunk goes to one requester, or to none. -/
theorem Waiting.handed_handOver (p : Payload) (q : Waiting) :
    Reply.handed (q.handOver p).1 = if (q.handOver p).2.isSome then [p] else [] := by
  induction q with
  | nil => rfl
  | cons w rest ih =>
    rw [handOver]
    split
    · rename_i hpresent
      simp [Reply.handed, hpresent]
    · rename_i habsent
      rw [← ih]
      simp [Reply.handed, habsent]

namespace Session

variable {σ : Type}

/-- The chunk that a session holds. -/
def held (s : Session σ) : List Payload :=
  match s.phase with
  | .holding chunk => [chunk]
  | _ => []

/-- The chunk that an event makes a session number. -/
def drawn (s : Session σ) : Event σ → List Payload
  | .read (.ok (.data data)) =>
    if s.phase = .reading then (Payload.make (s.chunks + 1) data).toOption.toList else []
  | _ => []

/-- The payload that an event has passed on to the target. -/
def passedOn? : Event σ → Option Payload
  | .forward p | .abandon p => some p
  | _ => none

/-! ## The loop -/

/-- What the loop does with at most the chunks at hand: it hands them out or holds them, each once
at most. -/
structure Yields (chunks : List Payload) (s : Session σ) (o : Outcome σ) : Prop where
  flow : ∀ p, (Reply.handed (replies o.2)).count p + o.1.held.count p ≤ chunks.count p
  forwarder : o.1.forwarder = s.forwarder
  chunks : o.1.chunks = s.chunks

theorem yields_finish (now : Nat) (cause : Option Error) (s : Session σ) :
    Yields [] s (s.finish now cause) where
  flow _ := Nat.le_refl _
  forwarder := rfl
  chunks := rfl

theorem yields_turn (timeouts : Timeouts) (now : Nat) (s : Session σ) :
    Yields [] s (s.turn timeouts now) := by
  rw [turn]
  split
  · exact yields_finish now none s
  · split
    · exact yields_finish now _ s
    · refine ⟨fun p => ?_, rfl, rfl⟩
      simp [replies_map_reply, Waiting.sweep, Reply.handed_answerAll, held]

/-- What is handed out before comes from the chunks at hand, too. -/
theorem Yields.prepend {chunks : List Payload} {s : Session σ} {o : Outcome σ} (h : Yields [] s o)
    {rs : List Reply} (hrs : Reply.handed rs = chunks) : Yields chunks s (o.1, rs.map .reply ++ o.2) where
  flow p := by
    have := h.flow p
    rw [replies_append, replies_map_reply, Reply.handed_append, List.count_append, hrs]
    rw [List.count_nil] at this
    dsimp only
    omega
  forwarder := h.forwarder
  chunks := h.chunks

theorem yields_deliver (timeouts : Timeouts) (now : Nat) (chunk : Payload) (s : Session σ) :
    Yields [chunk] s (s.deliver timeouts now chunk) := by
  have hhanded := Waiting.handed_handOver chunk s.waiting
  rw [deliver]
  split
  · rename_i rs left heq
    rw [heq] at hhanded
    have h := (yields_turn timeouts now { s with waiting := left }).prepend hhanded
    exact ⟨h.flow, h.forwarder, h.chunks⟩
  · rename_i rs heq
    rw [heq] at hhanded
    have hnone : Reply.handed rs = [] := hhanded
    dsimp only
    split
    · have h := (yields_finish now (some (idleError timeouts now { s with waiting := [] }))
        { s with waiting := [] }).prepend hnone
      exact ⟨fun p => Nat.le_trans (h.flow p) (Nat.zero_le _), h.forwarder, h.chunks⟩
    · refine ⟨fun p => ?_, rfl, rfl⟩
      rw [replies_map_reply, hnone]
      simp [held]

theorem yields_read (timeouts : Timeouts) (now : Nat)
    (outcome : Except Payload.Error Source.Outcome) (s : Session σ) (hreading : s.phase = .reading) :
    ∃ s' : Session σ, s'.forwarder = s.forwarder ∧
      Yields (s.drawn (.read outcome)) s' (s.read timeouts now outcome) := by
  match outcome with
  | .error e => exact ⟨s, rfl, yields_finish now _ s⟩
  | .ok .timedOut => exact ⟨s, rfl, yields_turn timeouts now s⟩
  | .ok (.data data) =>
    refine ⟨{ s with chunks := s.chunks + 1 }, rfl, ?_⟩
    simp only [read, receive, drawn, hreading, if_true]
    cases hmake : Payload.make (s.chunks + 1) data with
    | error e => exact yields_finish now _ _
    | ok chunk =>
      obtain ⟨hflow, hforwarder, hchunks⟩ :=
        yields_deliver timeouts now chunk { s with chunks := s.chunks + 1 }
      exact ⟨hflow, hforwarder, hchunks⟩

/-! ## What is read -/

/-- Only a session that reads numbers a chunk. -/
theorem reading_of_drawn {s : Session σ} {event : Event σ} (h : s.drawn event ≠ []) :
    s.phase = .reading := by
  rw [drawn.eq_def] at h
  split at h
  · split at h
    · assumption
    · exact absurd rfl h
  · exact absurd rfl h

theorem drawn_eq_nil {s : Session σ} (h : s.phase ≠ .reading) (event : Event σ) :
    s.drawn event = [] :=
  Classical.not_not.1 fun hdrawn => h (reading_of_drawn hdrawn)

theorem held_eq_nil {s : Session σ} (h : ∀ chunk, s.phase ≠ .holding chunk) : s.held = [] := by
  rw [held]
  split
  · rename_i chunk hphase
    exact absurd hphase (h chunk)
  · rfl

/-- A chunk has the next number. -/
theorem drawn_cases (s : Session σ) (event : Event σ) :
    s.drawn event = [] ∨ ∃ p, s.drawn event = [p] ∧ p.sequence = s.chunks + 1 := by
  rw [drawn.eq_def]
  split
  · split
    · rename_i data _
      cases hmake : Payload.make (s.chunks + 1) data with
      | error e => exact Or.inl rfl
      | ok p => exact Or.inr ⟨p, rfl, (Payload.make_eq_ok_iff.1 hmake).1⟩
    · exact Or.inl rfl
  · exact Or.inl rfl

/-- What is numbered are the chunks that a read brings, unless the numbers have run out. -/
theorem drawn_read (s : Session σ) (outcome : Except Payload.Error Source.Outcome) :
    s.drawn (.read outcome) = [] ∨
      (s.drawn (.read outcome)).map (·.data) = Source.pieces [outcome] := by
  match outcome with
  | .error e | .ok .timedOut => exact Or.inl rfl
  | .ok (.data bytes) =>
    rw [drawn]
    split
    · cases hmake : Payload.make (s.chunks + 1) bytes with
      | error e => exact Or.inl rfl
      | ok p => exact Or.inr (congrArg (fun data => [data]) (Payload.make_eq_ok_iff.1 hmake).2)
    · exact Or.inl rfl

/-- A session that reads on has numbered what the read brought. -/
theorem drawn_of_isRunning (timeouts : Timeouts) (now : Nat) {s : Session σ}
    (hreading : s.phase = .reading) {outcome : Except Payload.Error Source.Outcome}
    (hruns : (s.read timeouts now outcome).1.isRunning = true) :
    (s.drawn (.read outcome)).map (·.data) = Source.pieces [outcome] := by
  match outcome with
  | .error e => cases hruns
  | .ok .timedOut => rfl
  | .ok (.data bytes) =>
    simp only [read, receive, drawn, hreading, if_true] at hruns ⊢
    cases hmake : Payload.make (s.chunks + 1) bytes with
    | error e => rw [hmake] at hruns; cases hruns
    | ok p => exact congrArg (fun data => [data]) (Payload.make_eq_ok_iff.1 hmake).2

/-- A read takes its chunk from the front of what the source has in store. -/
theorem drawn_read_prefix (s : Session σ) (source : Source) :
    (s.drawn (.read source.read.1)).flatMap (·.data) <+: source.bytes := by
  rcases drawn_read s source.read.1 with hnone | hdata
  · rw [hnone]
    exact List.nil_prefix
  · rw [List.flatMap_def, hdata, ← source.bytes_read]
    exact List.prefix_append _ _

/-- **No byte is lost while the loop runs**: what is read and what stays in store is what was
in store. -/
theorem store_read [Sink σ] (timeouts : Timeouts) (now : Nat) (s : Session σ)
    (hreading : s.phase = .reading) (source : Source)
    (hruns : (s.step timeouts now (.read source.read.1)).1.isRunning = true) :
    (s.drawn (.read source.read.1)).flatMap (·.data) ++ source.read.2.bytes = source.bytes := by
  rw [step, if_pos hreading] at hruns
  rw [List.flatMap_def, drawn_of_isRunning timeouts now hreading hruns, source.bytes_read]

/-! ## All events -/

variable [Sink σ]

/-- **A chunk is held or handed out**, no more often than it was held or numbered. -/
theorem flow_step (timeouts : Timeouts) (now : Nat) (s : Session σ) (event : Event σ) (p : Payload) :
    (Reply.handed (replies (s.step timeouts now event).2)).count p +
      (s.step timeouts now event).1.held.count p ≤ s.held.count p + (s.drawn event).count p := by
  cases event with
  | join number =>
    rw [step, join]
    split
    · simp [replies_map_reply, Waiting.join, Reply.handed_answerAll, held]
    · simp [Reply.handed]
  | leave number | close | device device => simp [step, close, held, Reply.handed]
  | forward q =>
    simp only [step, forward]
    split <;> simp [close, held, Reply.handed]
  | abandon q => simp [step, abandon, held, Reply.handed]
  | read outcome =>
    rw [step]
    split
    · rename_i hreading
      obtain ⟨s', -, h⟩ := yields_read timeouts now outcome s hreading
      exact Nat.le_trans (h.flow p) (Nat.le_add_left _ _)
    · simp [Reply.handed]
  | wake =>
    simp only [step]
    split
    · rename_i chunk hphase
      have h := (yields_deliver timeouts now chunk s).flow p
      have hheld : s.held = [chunk] := by rw [held, hphase]
      rw [hheld]
      exact Nat.le_trans h (Nat.le_add_right _ _)
    · simp [Reply.handed]
  | notice =>
    simp only [step]
    split
    · exact Nat.le_trans ((yields_finish now none s).flow p) (Nat.zero_le _)
    · simp [Reply.handed]
  | release =>
    simp only [step]
    split
    · simp [release, Waiting.release, Reply.handed_answerAll, held]
    · simp [Reply.handed]
  | shutDown =>
    simp only [step]
    split
    · simp [held, Reply.handed]
    · simp [Reply.handed]

/-- What an event passes on is given to the forwarder. -/
theorem forwarder_step_of_passedOn (timeouts : Timeouts) (now : Nat) (s : Session σ)
    {event : Event σ} {p : Payload} (h : passedOn? event = some p) :
    (s.step timeouts now event).1.forwarder = (s.forwarder.forward p).2 := by
  cases event with
  | forward q =>
    obtain rfl := Option.some.inj h
    simp only [step, forward]
    split <;> rfl
  | abandon q =>
    obtain rfl := Option.some.inj h
    rfl
  | _ => cases h

/-- Other events leave the stream towards the target alone. -/
theorem sameStream_step (timeouts : Timeouts) (now : Nat) (s : Session σ) {event : Event σ}
    (h : passedOn? event = none) :
    s.forwarder.SameStream (s.step timeouts now event).1.forwarder := by
  cases event with
  | forward q | abandon q => cases h
  | join number =>
    rw [step, join]
    split <;> exact .refl _
  | leave number | close => exact .refl _
  | read outcome =>
    rw [step]
    split
    · rename_i hreading
      obtain ⟨s', hs', hyields⟩ := yields_read timeouts now outcome s hreading
      exact .of_eq (hyields.forwarder.trans hs')
    · exact .refl _
  | wake =>
    simp only [step]
    split
    · exact .of_eq (yields_deliver timeouts now _ s).forwarder
    · exact .refl _
  | notice | release =>
    simp only [step]
    split <;> exact .refl _
  | shutDown =>
    simp only [step]
    split
    · exact ⟨rfl, rfl, Outlet.written_shutdown _⟩
    · exact .refl _
  | device device => exact ⟨rfl, rfl, rfl⟩

omit [Sink σ] in
/-- A session that reads on has numbered what it read. -/
theorem chunks_read (timeouts : Timeouts) (now : Nat) {s : Session σ} (hreading : s.phase = .reading)
    {outcome : Except Payload.Error Source.Outcome}
    (hruns : (s.read timeouts now outcome).1.isRunning = true) :
    (s.read timeouts now outcome).1.chunks = s.chunks + (s.drawn (.read outcome)).length := by
  cases outcome with
  | error e => cases hruns
  | ok outcome =>
    cases outcome with
    | timedOut => exact (yields_turn timeouts now s).chunks
    | data data =>
      simp only [read, receive, drawn, hreading, if_true] at hruns ⊢
      cases hmake : Payload.make (s.chunks + 1) data with
      | error e => rw [hmake] at hruns; cases hruns
      | ok chunk =>
        exact (yields_deliver timeouts now chunk { s with chunks := s.chunks + 1 }).chunks

/-- While the loop runs, every chunk that it read has a number. -/
theorem chunks_step (timeouts : Timeouts) (now : Nat) (s : Session σ) (event : Event σ)
    (hruns : (s.step timeouts now event).1.isRunning = true) :
    s.isRunning = true ∧
      (s.step timeouts now event).1.chunks = s.chunks + (s.drawn event).length := by
  constructor
  · cases hs : s.isRunning with
    | true => rfl
    | false => rw [not_isRunning_step timeouts now hs event] at hruns; cases hruns
  cases event with
  | join number =>
    rw [step, join]
    split <;> rfl
  | leave number | close | abandon q | device device => rfl
  | forward q =>
    simp only [step, forward]
    split <;> rfl
  | read outcome =>
    rw [step] at hruns ⊢
    split
    · rename_i hreading
      rw [if_pos hreading] at hruns
      exact chunks_read timeouts now hreading hruns
    · rename_i hreading
      rw [drawn_eq_nil hreading]
      rfl
  | wake =>
    simp only [step]
    split
    · exact (yields_deliver timeouts now _ s).chunks
    · rfl
  | notice =>
    simp only [step]
    split <;> rfl
  | release | shutDown =>
    simp only [step]
    split <;> rfl

end Session

namespace Server

variable {σ : Type}

/-! ## Payloads on their way to a session -/

/-- The payloads of requests. -/
def carried (visits : List Visit) : List Payload :=
  visits.filterMap fun visit =>
    match visit.received with
    | .payload p => some p
    | .noPayload => none

/-- The payloads that are still to be passed on. -/
def load (s : Server σ) : List Payload := carried s.arriving ++ carried s.forwarding

/-- The payload that an arriving request brings. -/
def brought : Event σ → List Payload
  | .arrive _ request _ =>
    match Received.ofMessage request with
    | .ok (.payload p) => [p]
    | _ => []
  | _ => []

/-- The payload that an event gives to a session. -/
def given (s : Server σ) (event : Event σ) : List Payload :=
  ((s.action? event).bind fun action => Session.passedOn? action.2).toList

theorem count_carried_without_le (visits : List Visit) (number : Nat) (p : Payload) :
    (carried (without visits number)).count p ≤ (carried visits).count p :=
  (List.filter_sublist.filterMap _).count_le p

/-- A request that is taken out takes its payload with it. -/
theorem count_carried_take {visits : List Visit} {visit : Visit} (h : visit ∈ visits)
    (p : Payload) :
    (carried (without visits visit.number)).count p + (carried [visit]).count p ≤
      (carried visits).count p := by
  have hone : carried [visit] = (match visit.received with
      | .payload p => some p
      | .noPayload => none).toList := by
    rw [carried, List.filterMap_cons]
    cases visit.received <;> rfl
  rw [hone]
  exact count_filterMap_filter_ne (k := Visit.number) h p

/-- What happens to a request on its way does not touch its payload. -/
theorem carried_changedBy (s : Server σ) (event : Event σ) (visits : List Visit) :
    carried (changedBy visits (s.changing? event)) = carried visits := by
  cases hchange : s.changing? event with
  | none => rfl
  | some row =>
    obtain ⟨changing, change⟩ := row
    induction visits with
    | nil => rfl
    | cons visit visits ih =>
      have hhead : (if visit = changing then change visit else visit).received =
          visit.received := by
        split
        · exact (kept_of_changing? hchange visit).2.2
        · rfl
      simp only [carried, changedBy, changed, List.map_cons, List.filterMap_cons, hhead] at ih ⊢
      rw [ih]

theorem carried_visiting (s : Server σ) (event : Event σ) (p : Payload) :
    (carried (s.visiting event)).count p ≤ (brought event).count p := by
  cases event with
  | arrive number request target =>
    simp only [visiting, brought]
    cases Received.ofMessage request with
    | error e => exact Nat.zero_le _
    | ok received =>
      cases received <;> cases s.current <;> cases target <;> simp [carried]
  | _ => exact Nat.zero_le _

theorem count_carried_remaining_le (visits : List Visit) (gone : Option Nat) (p : Payload) :
    (carried (remaining visits gone)).count p ≤ (carried visits).count p := by
  cases gone with
  | none => exact Nat.le_refl _
  | some number => exact count_carried_without_le visits number p

/-- A request that is let in was on its way. -/
theorem count_carried_entering (s : Server σ) (event : Event σ) (p : Payload) :
    (carried (remaining s.arriving (s.ceasing? event))).count p +
      (carried (s.entering event)).count p ≤ (carried s.arriving).count p := by
  cases event with
  | join number =>
    simp only [ceasing?, remaining, entering]
    cases hfound : s.arriving.find? (·.number = number) with
    | none => exact count_carried_without_le s.arriving number p
    | some visit =>
      have htake := count_carried_take (List.mem_of_find?_eq_some hfound) p
      rw [show visit.number = number by simpa using List.find?_some hfound] at htake
      dsimp only
      split
      · exact htake
      · exact count_carried_without_le s.arriving number p
  | _ => exact count_carried_remaining_le s.arriving _ p

/-- A payload that is given to a session belongs to a request that was let in. -/
theorem count_carried_given (s : Server σ) (event : Event σ) (p : Payload) :
    (carried (remaining s.forwarding (s.finishing? event))).count p + (s.given event).count p ≤
      (carried s.forwarding).count p := by
  have hfound : ∀ {number : Nat} {visit : Visit}, s.forwarding? number = some visit →
      (carried (without s.forwarding number)).count p + (carried [visit]).count p ≤
        (carried s.forwarding).count p := by
    intro number visit hvisit
    obtain ⟨hmem, hnumber, -⟩ := of_forwarding? hvisit
    have htake := count_carried_take hmem p
    rwa [hnumber] at htake
  have hnone : s.given event = [] →
      (carried (remaining s.forwarding (s.finishing? event))).count p + (s.given event).count p ≤
        (carried s.forwarding).count p := by
    intro h
    rw [h]
    exact count_carried_remaining_le s.forwarding _ p
  cases event with
  | forward number | abandon number =>
    simp only [finishing?, departing?, given, action?]
    cases hvisit : s.forwarding? number with
    | none => exact Nat.le_refl _
    | some visit =>
      have htake := hfound hvisit
      simp only [Option.map_some, Option.bind_some, remaining]
      cases hreceived : visit.received with
      | noPayload => exact count_carried_without_le s.forwarding number p
      | payload q =>
        have hcarried : carried [visit] = [q] := by simp [carried, hreceived]
        rwa [hcarried] at htake
  | join number =>
    refine hnone ?_
    simp only [given, action?]
    cases s.arriving.find? (·.number = number) <;> rfl
  | disconnect number =>
    refine hnone ?_
    simp only [given, action?]
    cases s.forwarding.find? fun visit => visit.number = number ∧ visit.disconnect = true <;> rfl
  | shutDown k =>
    refine hnone ?_
    simp only [given, action?]
    split <;> rfl
  | _ => exact hnone rfl

variable [Sink σ]

/-- **A payload is given to a session once.**  What is still to be passed on after an event, and
what it gave to a session, was to be passed on before it, or was brought. -/
theorem load_step (s : Server σ) (event : Event σ) (p : Payload) :
    (s.step event).1.load.count p + (s.given event).count p ≤
      s.load.count p + (brought event).count p := by
  have hvisiting := carried_visiting s event p
  have hentering := count_carried_entering s event p
  have hgiven := count_carried_given s event p
  have happend : ∀ a b : List Visit, carried (a ++ b) = carried a ++ carried b :=
    fun _ _ => List.filterMap_append
  rw [load, load, arriving_step, forwarding_step, happend, happend, carried_changedBy]
  simp only [List.count_append]
  omega

omit [Sink σ] in
theorem given_of_action? {s : Server σ} {event : Event σ} {k : Nat} {action : Session.Event σ}
    (h : s.action? event = some (k, action)) {p : Payload}
    (hpassed : Session.passedOn? action = some p) : s.given event = [p] := by
  rw [given, h, Option.bind_some, hpassed]
  rfl

/-- **Every session's stream.**  An event has a session pass a payload on, or leaves the stream
towards its target alone. -/
theorem forwarder_step_cases {s : Server σ} {k : Nat} {x : Session σ} (h : s.sessions[k]? = some x)
    (event : Event σ) :
    ∃ y, (s.step event).1.sessions[k]? = some y ∧
      ((∃ action p, s.action? event = some (k, action) ∧ Session.passedOn? action = some p ∧
          y.forwarder = (x.forwarder.forward p).2) ∨
        x.forwarder.SameStream y.forwarder) := by
  obtain ⟨q, -, ⟨-, hy⟩ | ⟨action, haction, hy⟩⟩ := session_step_cases h event
  · exact ⟨_, hy, Or.inr (.refl _)⟩
  · refine ⟨_, hy, ?_⟩
    cases hpassed : Session.passedOn? action with
    | none => exact Or.inr (Session.sameStream_step s.timeouts s.clock { x with waiting := q } hpassed)
    | some p =>
      exact Or.inl ⟨action, p, haction, hpassed,
        Session.forwarder_step_of_passedOn s.timeouts s.clock { x with waiting := q } hpassed⟩

/-! ## Chunks on their way to a requester -/

/-- The chunks that sessions hold. -/
def held (s : Server σ) : List Payload := s.sessions.flatMap Session.held

/-- The chunk that an event makes a session number. -/
def drawn (s : Server σ) : Event σ → List Payload
  | .read k outcome => (s.sessions[k]?.map fun x => x.drawn (.read outcome)).getD []
  | _ => []

/-- The chunks that requesters who are still there are answered. -/
def handed (effects : List Effect) : List Payload :=
  effects.filterMap fun
    | .answer _ (.payload p) true => some p
    | _ => none

omit [Sink σ] in
theorem handed_append (a b : List Effect) : handed (a ++ b) = handed a ++ handed b :=
  List.filterMap_append

omit [Sink σ] in
theorem handed_effectOf (k : Nat) (effects : List Session.Effect) :
    handed (effects.filterMap (effectOf? k)) = Reply.handed (Session.replies effects) := by
  induction effects with
  | nil => rfl
  | cons effect effects ih =>
    cases effect with
    | passed direction p => exact ih
    | ended cause => exact ih
    | reply r =>
      rw [Session.replies_reply_cons, List.filterMap_cons_some (by rfl : effectOf? k (.reply r) =
        some (.answer r.waiter.number r.answer r.waiter.present)), handed, Reply.handed,
        List.filterMap_cons, List.filterMap_cons]
      obtain ⟨⟨number, since, present⟩, answer⟩ := r
      rw [handed, Reply.handed] at ih
      cases answer <;> cases present <;> simp only [ih]

/-- What a session does with the chunks of a server. -/
theorem flow_act (s : Server σ) {k : Nat} {x : Session σ} (h : s.sessions[k]? = some x)
    (event : Session.Event σ) (p : Payload) :
    (handed (s.act k event).2).count p + (s.act k event).1.held.count p ≤
      s.held.count p + (x.drawn event).count p := by
  obtain ⟨hlt, hx⟩ := List.getElem?_eq_some_iff.1 h
  obtain ⟨l₁, l₂, hsplit, -, hset⟩ : ∃ l₁ l₂, s.sessions = l₁ ++ s.sessions[k] :: l₂ ∧
      l₁.length = k ∧ s.sessions.set k (x.step s.timeouts s.clock event).1 =
        l₁ ++ (x.step s.timeouts s.clock event).1 :: l₂ := List.exists_of_set hlt
  have hflow := Session.flow_step s.timeouts s.clock x event p
  rw [act_of_some s k event h, handed_effectOf, held, held, hset]
  rw [hx] at hsplit
  rw [hsplit]
  simp only [List.flatMap_append, List.flatMap_cons, List.count_append]
  omega

omit [Sink σ] in
theorem held_departed (s : Server σ) (gone : Option Nat) : (s.departed gone).held = s.held := by
  cases gone with
  | none => rfl
  | some number =>
    rw [held, held, departed, leave, List.flatMap_map]
    rfl

omit [Sink σ] in
/-- A server numbers nothing, or one chunk that a session reads. -/
theorem drawn_cases (s : Server σ) (event : Event σ) :
    s.drawn event = [] ∨ ∃ x ∈ s.sessions, ∃ p, s.drawn event = [p] ∧
      p.sequence = x.chunks + 1 ∧ x.isRunning = true := by
  cases event with
  | read k outcome =>
    rw [drawn]
    cases hx : s.sessions[k]? with
    | none => exact Or.inl rfl
    | some x =>
      rcases Session.drawn_cases x (.read outcome) with hnone | ⟨p, hp, hsequence⟩
      · exact Or.inl hnone
      · refine Or.inr ⟨x, List.mem_of_getElem? hx, p, hp, hsequence, ?_⟩
        rw [Session.isRunning, Session.reading_of_drawn (by rw [hp]; exact List.cons_ne_nil _ _)]
  | _ => exact Or.inl rfl

omit [Sink σ] in
/-- A departing requester does not change what is read. -/
theorem drawn_departed {s : Server σ} {gone : Option Nat} {k : Nat} {x : Session σ}
    (h : (s.departed gone).sessions[k]? = some x) :
    ∃ y, s.sessions[k]? = some y ∧ ∀ event, x.drawn event = y.drawn event := by
  cases gone with
  | none => exact ⟨x, h, fun _ => rfl⟩
  | some number =>
    rw [departed, leave, List.getElem?_map, Option.map_eq_some_iff] at h
    obtain ⟨y, hy, rfl⟩ := h
    exact ⟨y, hy, fun event => by cases event <;> rfl⟩

omit [Sink σ] in
/-- A session numbers a chunk only when it reads. -/
theorem drawn_of_action? {s : Server σ} {event : Event σ} {k : Nat} {action : Session.Event σ}
    (h : s.action? event = some (k, action)) {x : Session σ} (hx : s.sessions[k]? = some x) :
    x.drawn action = s.drawn event := by
  cases event with
  | read j outcome =>
    cases h
    rw [drawn, hx]
    rfl
  | join number | disconnect number =>
    obtain ⟨visit, -, heq⟩ := Option.map_eq_some_iff.1 h
    cases heq
    rfl
  | forward number | abandon number =>
    obtain ⟨visit, -, heq⟩ := Option.bind_eq_some_iff.1 h
    cases hreceived : visit.received with
    | noPayload => rw [hreceived] at heq; cases heq
    | payload p => rw [hreceived] at heq; cases heq; rfl
  | arrive | write | leave | clear | pass => cases h
  | shutDown j =>
    obtain ⟨-, -, rfl⟩ := action?_shutDown h
    rfl
  | _ => cases h; rfl

omit [Sink σ] in
/-- The server itself hands out nothing. -/
theorem handed_remark (s : Server σ) (event : Event σ) : handed (s.remark event) = [] := by
  cases event with
  | arrive number request target =>
    simp only [remark, arrive]
    cases Received.ofMessage request with
    | error e => rfl
    | ok received => cases s.current <;> cases target <;> rfl
  | clear k =>
    simp only [remark, clear]
    split
    · rfl
    · split <;> rfl
  | _ => rfl

/-- **A chunk is held or handed out once.**  What is handed out by an event, and what is held after
it, was held before it, or was numbered by it. -/
theorem flow_step (s : Server σ) (event : Event σ) (p : Payload) :
    (handed (s.step event).2).count p + (s.step event).1.held.count p ≤
      s.held.count p + (s.drawn event).count p := by
  have hheld : (s.step event).1.held = (s.react event).1.held := by
    rw [held, held, (step_reacts s event).1, List.flatMap_append]
    rcases opening_cases s event with h | ⟨device, h⟩ <;> simp [h, Session.start, Session.held]
  rw [hheld, (step_reacts s event).2, handed_append, handed_remark, List.append_nil, react]
  cases haction : s.action? event with
  | none =>
    dsimp only
    rw [held_departed]
    exact Nat.le_trans (Nat.le_of_eq (Nat.zero_add _)) (Nat.le_add_right _ _)
  | some action =>
    obtain ⟨k, action⟩ := action
    dsimp only
    cases hk : (s.departed (s.departing? event)).sessions[k]? with
    | none =>
      rw [act_of_none _ k action hk, held_departed]
      exact Nat.le_trans (Nat.le_of_eq (Nat.zero_add _)) (Nat.le_add_right _ _)
    | some x =>
      have hflow := flow_act _ hk action p
      obtain ⟨y, hy, hdrawn⟩ := drawn_departed hk
      rwa [held_departed, hdrawn, drawn_of_action? haction hy] at hflow

/-- With a single session, every chunk that was read has a number while its loop runs. -/
theorem chunks_step {s : Server σ} {x y : Session σ} (hx : s.sessions = [x]) (event : Event σ)
    (hy : (s.step event).1.sessions[0]? = some y) (hruns : y.isRunning = true) :
    x.isRunning = true ∧ y.chunks = x.chunks + (s.drawn event).length := by
  have h0 : s.sessions[0]? = some x := by rw [hx]; rfl
  obtain ⟨q, -, ⟨hother, hstep⟩ | ⟨action, haction, hstep⟩⟩ := session_step_cases h0 event
  · obtain rfl := Option.some.inj (hstep.symm.trans hy)
    have hnone : s.drawn event = [] := by
      cases event with
      | read j outcome =>
        cases j with
        | zero => exact absurd rfl (hother _)
        | succ j => rw [drawn, hx]; rfl
      | _ => rfl
    rw [hnone]
    exact ⟨hruns, rfl⟩
  · obtain rfl := Option.some.inj (hstep.symm.trans hy)
    have hdrawn : ({ x with waiting := q } : Session σ).drawn action = s.drawn event := by
      rw [← drawn_of_action? haction h0]
      cases action <;> rfl
    rw [← hdrawn]
    exact Session.chunks_step s.timeouts s.clock { x with waiting := q } action hruns

end Server
end Tunnel
end PollTunnel
