import PollTunnel.Proofs.Gateway.Uncounted
import PollTunnel.Proofs.Requests.Ledger

/-!
# Refused requests leave the tunnel alone

A run is compared with one that has more requests in it, each of which is refused where it comes or
asks how the gateway is (`Gateway.Refuses`).  Apart from how many answers were counted, the two runs
are the same at every moment that they share (`Gateway.Unaffected`).

A request is refused in one of the layers in front of the sessions (`refuses_iff`): by its declared
length, its path, the access policy, the length of its body, or because its payload is malformed.
In each of them the gateway stays as it was (`step_of_refuses`), and `refusals_unaffected` follows
by induction along the run.  Which layer it is depends on the request and the settings only, so a
request that is turned away is so whatever the tunnel is doing (`refuses_of_turnedAway`).  A request
that got past them all is not refused later (`not_refused_of_tunnel`).
-/

set_option autoImplicit false

namespace PollTunnel
namespace Gateway

variable {σ : Type}

/-! ## Refused requests -/

section Refused

variable (g : Gateway σ) (number : Nat) (wall : UInt64) (fresh : Bytes) (r : Request)
  (target : Option σ)

/-- The statuses with which a request is refused. -/
def refusals : List Status :=
  [Status.badRequest, Status.unauthorized, Status.forbidden, Status.notFound,
    Status.payloadTooLarge]

/-- The statuses of the responses to a request. -/
def statusesOf (effects : List Effect) : List Status :=
  effects.filterMap fun
    | .respond n response => if n = number then some response.status else none
    | .opened _ | .ended _ _ | .cleared _ => none

/-- A request asks how the gateway is, and not for the tunnel.  These are all requests for the
health path, whatever their method, unless that is the path of the tunnel as well. -/
def AsksHealth : Prop :=
  pathOf r = healthPath ∧ (r.method ∈ healthMethods ∨ g.isTunnelPath healthPath = false)

instance : Decidable (g.AsksHealth r) := inferInstanceAs (Decidable (_ ∧ _))

/-- An event is a request, under a number that no request has which waits for its response.  As the
gateway stands, it is refused, or asks how that is. -/
def Refuses : Event σ → Prop
  | .request number wall fresh r target =>
    number ∉ g.callers.map (·.number) ∧
      ((∃ status ∈ statusesOf number (g.arrive number wall fresh r target).2, status ∈ refusals) ∨
        g.AsksHealth r)
  | .tunnel _ => False

instance : (event : Event σ) → Decidable (g.Refuses event)
  | .request _ _ _ _ _ => inferInstanceAs (Decidable (_ ∧ _))
  | .tunnel _ => inferInstanceAs (Decidable False)

/-- A request that asks how the gateway is does not get past the screening. -/
theorem not_asksHealth_of_passed (hpassed : g.screen wall r = .passed) : ¬ g.AsksHealth r := by
  rintro ⟨hpath, hasks⟩
  unfold screen at hpassed
  simp only [hpath] at hpassed
  split at hpassed
  · cases hpassed
  · obtain hmethod | htunnel := hasks
    · simp [hmethod] at hpassed
    · split at hpassed
      · cases hpassed
      · simp [htunnel] at hpassed

@[simp] theorem uncounted_countResponse (status : Status) :
    (g.countResponse status).uncounted = g.uncounted := rfl

theorem asksHealth_of_health (hhealth : g.screen wall r = .health) : g.AsksHealth r := by
  unfold screen screenTunnel at hhealth
  by_cases hasks : pathOf r = healthPath ∧ r.method ∈ healthMethods
  · exact ⟨hasks.1, .inl hasks.2⟩
  · simp only [if_neg hasks] at hhealth
    grind

/-- A response for an answer goes to the same request, and has its status. -/
theorem status_of_mem_answer {a : Tunnel.Answer} {taken : Bool} {n : Nat} {status : Status}
    (h : status ∈ statusesOf n (g.answer number a taken).2) :
    number = n ∧ status = a.statusCode := by
  have hdress : ∀ caller : Caller, (caller.dress a.response).status = a.statusCode :=
    fun _ => a.status_response
  unfold answer at h
  split at h
  · cases h
  · by_cases htaken : taken = true <;> simp_all [statusesOf]

/-- A request that passes and is well-formed is not refused. -/
theorem status_of_wellFormed {received : Received} {status : Status}
    (hpassed : g.screen wall r = .passed)
    (hmessage : Received.ofMessage r.toMessage = .ok received)
    (h : status ∈ statusesOf number (g.arrive number wall fresh r target).2) :
    status = Status.gone := by
  simp only [arrive, hpassed, Tunnel.Server.arrive, hmessage] at h
  cases hcurrent : g.tunnel.current with
  | some session =>
    rw [hcurrent] at h
    cases h
  | none =>
    rw [hcurrent] at h
    cases target with
    | some device => simp [relay, statusesOf] at h
    | none =>
      simp only [relay, List.append_nil] at h
      exact (status_of_mem_answer _ _ h).2

/-- A malformed request is told so, and nobody else is told anything. -/
theorem arrive_of_malformed {e : Payload.Error} (hpassed : g.screen wall r = .passed)
    (hmessage : Received.ofMessage r.toMessage = .error e)
    (hnew : number ∉ g.callers.map (·.number)) :
    g.arrive number wall fresh r target =
      (g.countResponse Status.badRequest,
        [.respond number ((Caller.ofRequest number fresh r).dress
          (Tunnel.Answer.rejected e.message).response)]) := by
  have hother : ∀ caller ∈ g.callers, caller.number ≠ number := by
    intro caller hcaller heq
    exact hnew (heq ▸ List.mem_map_of_mem hcaller)
  have hfind : (g.callers ++ [Caller.ofRequest number fresh r]).find? (·.number = number) =
      some (Caller.ofRequest number fresh r) := by
    rw [List.find?_append, List.find?_eq_none.2 (by simpa using hother)]
    simp [Caller.ofRequest]
  have hfilter : (g.callers ++ [Caller.ofRequest number fresh r]).filter (·.number ≠ number) =
      g.callers := by
    rw [List.filter_append, List.filter_eq_self.2 (by simpa using hother)]
    simp [Caller.ofRequest]
  simp only [arrive, hpassed, Tunnel.Server.arrive, hmessage, relay, answer, hfind, hfilter]
  rfl

/-- A request is turned away in one of the layers before the sessions. -/
def TurnedAway : Prop :=
  match g.screen wall r with
  | .answered response => response.status ∈ refusals ∨ g.AsksHealth r
  | .health | .tooLarge => True
  | .passed => ∃ e, Received.ofMessage r.toMessage = .error e

/-- **A refusal comes from one of the layers before the sessions.** -/
theorem refuses_iff (hnew : number ∉ g.callers.map (·.number)) :
    g.Refuses (.request number wall fresh r target) ↔ g.TurnedAway wall r := by
  have hown : ∀ response : Response,
      ((Caller.ofRequest number fresh r).dress response).status = response.status := fun _ => rfl
  simp only [Refuses, hnew, not_false_eq_true, true_and, TurnedAway]
  cases hscreen : g.screen wall r with
  | answered response => simp [arrive, hscreen, statusesOf, hown]
  | health =>
    have hasks : g.AsksHealth r := g.asksHealth_of_health wall r hscreen
    simp [hasks]
  | tooLarge => simp [arrive, hscreen, statusesOf, hown, Response.ofStatus, refusals]
  | passed =>
    have hpasses := g.not_asksHealth_of_passed wall r hscreen
    cases hmessage : Received.ofMessage r.toMessage with
    | error e =>
      rw [arrive_of_malformed g number wall fresh r target hscreen hmessage hnew]
      simp [statusesOf, hown, Tunnel.Answer.response, Response.ofText, refusals]
    | ok received =>
      simp only [hpasses, or_false, reduceCtorEq, exists_false, iff_false]
      rintro ⟨status, hstatus, hmem⟩
      rw [g.status_of_wellFormed number wall fresh r target hscreen hmessage hstatus] at hmem
      exact absurd hmem (by decide)

end Refused

/-- **A refused request leaves the gateway as it was**, but for the count of answers, and causes its
own response and nothing else. -/
theorem step_of_refuses [Sink σ] {g : Gateway σ} {event : Event σ} (h : g.Refuses event) :
    (g.step event).1.uncounted = g.uncounted ∧
      ∃ number wall fresh r target response, event = .request number wall fresh r target ∧
        (g.step event).2 = [.respond number response] := by
  cases event with
  | tunnel event => exact h.elim
  | request number wall fresh r target =>
    suffices hown : (g.arrive number wall fresh r target).1.uncounted = g.uncounted ∧
        ∃ response, (g.arrive number wall fresh r target).2 = [.respond number response] by
      obtain ⟨hstate, response, heffects⟩ := hown
      exact ⟨hstate, number, wall, fresh, r, target, response, rfl, heffects⟩
    have hturned := (refuses_iff g number wall fresh r target h.1).1 h
    cases hscreen : g.screen wall r with
    | answered _ | health | tooLarge => simp [arrive, hscreen]
    | passed =>
      obtain ⟨e, hmessage⟩ : ∃ e, Received.ofMessage r.toMessage = .error e := by
        rwa [TurnedAway, hscreen] at hturned
      rw [arrive_of_malformed g number wall fresh r target hscreen hmessage h.1]
      exact ⟨rfl, _, rfl⟩

theorem not_isSettled_of_mem_refusals :
    ∀ status ∈ refusals, Tunnel.Server.isSettled status = false := by decide

theorem statusesOf_append (number : Nat) (a b : List Effect) :
    statusesOf number (a ++ b) = statusesOf number a ++ statusesOf number b :=
  List.filterMap_append

/-- The responses for what the server causes have the statuses of its answers. -/
theorem exists_answer_of_relay {g : Gateway σ} {effects : List Tunnel.Server.Effect} {number : Nat}
    {status : Status} (h : status ∈ statusesOf number (g.relay effects).2) :
    ∃ a ∈ Tunnel.Server.answersTo number effects, status = a.1.statusCode := by
  induction effects generalizing g with
  | nil => simp [relay, statusesOf] at h
  | cons effect rest ih =>
    cases effect with
    | answer n a taken =>
      rw [relay, statusesOf_append, List.mem_append] at h
      obtain hfirst | hrest := h
      · obtain ⟨rfl, hstatus⟩ := g.status_of_mem_answer n hfirst
        exact ⟨(a, taken), by simp [Tunnel.Server.answersTo], hstatus⟩
      · obtain ⟨b, hb, hstatus⟩ := ih hrest
        have hmem : b ∈ Tunnel.Server.answersTo number (.answer n a taken :: rest) := by
          rw [← List.singleton_append, Tunnel.Server.answersTo_append]
          exact List.mem_append_right _ hb
        exact ⟨b, hmem, hstatus⟩
    | opened _ | ended _ _ | cleared _ => exact ih h

/-- **A request is refused where it comes, or not at all.**  What happens at the server later does
not refuse it. -/
theorem not_refused_of_tunnel [Sink σ] {g : Gateway σ} (htidy : ∀ x ∈ g.tunnel.sessions, x.Tidy)
    {event : Tunnel.Server.Event σ} (harrival : event.arrival = []) {number : Nat} {status : Status}
    (h : status ∈ statusesOf number (g.step (.tunnel event)).2) : status ∉ refusals := by
  intro hrefused
  obtain ⟨a, ha, rfl⟩ : ∃ a ∈ Tunnel.Server.answersTo number (g.tunnel.step event).2,
      status = a.1.statusCode := exists_answer_of_relay h
  have hremark := Tunnel.Server.answersTo_remark g.tunnel event number
  rw [harrival, List.count_nil] at hremark
  have hnone : Tunnel.Server.answersTo number (g.tunnel.remark event) = [] :=
    List.eq_nil_of_length_eq_zero (by omega)
  rw [(Tunnel.Server.step_reacts g.tunnel event).2, Tunnel.Server.answersTo_append, hnone,
    List.append_nil] at ha
  have hsettled := Tunnel.Server.isSettled_react htidy event number a ha
  rw [not_isSettled_of_mem_refusals _ hrefused] at hsettled
  cases hsettled

/-! ## Two runs -/

/-- An event with the mark that it was added to a run. -/
structure Entry (σ : Type) where
  event : Event σ
  added : Bool

/-- An entry with the gateway before it and with what it did. -/
structure Moment (σ : Type) where
  entry : Entry σ
  before : Gateway σ
  effects : List Effect
  after : Gateway σ

/-- A moment without the counts of answers. -/
def Moment.uncounted (m : Moment σ) : Moment σ :=
  { m with before := m.before.uncounted, after := m.after.uncounted }

/-- The moments of a run. -/
def history [Sink σ] (g : Gateway σ) : List (Entry σ) → List (Moment σ)
  | [] => []
  | entry :: rest =>
    ⟨entry, g, (g.step entry.event).2, (g.step entry.event).1⟩ ::
      history (g.step entry.event).1 rest

variable [Sink σ]

@[simp] theorem run_cons (g : Gateway σ) (event : Event σ) (rest : List (Event σ)) :
    g.run (event :: rest) =
      (((g.step event).1.run rest).1, (g.step event).2 ++ ((g.step event).1.run rest).2) := rfl

/-- What a run causes is what its moments cause. -/
theorem effects_run (g : Gateway σ) (plan : List (Entry σ)) :
    (g.run (plan.map (·.event))).2 = (g.history plan).flatMap (·.effects) := by
  induction plan generalizing g with
  | nil => rfl
  | cons entry rest ih => simp [history, ih]

/-- What a moment of a run does is a step. -/
theorem step_of_mem_history {g : Gateway σ} {plan : List (Entry σ)} {m : Moment σ}
    (h : m ∈ g.history plan) : m.before.step m.entry.event = (m.after, m.effects) := by
  induction plan generalizing g with
  | nil => cases h
  | cons entry rest ih =>
    obtain rfl | hrest := List.mem_cons.1 h
    · rfl
    · exact ih hrest

/-- What becomes of a run to which entries were added. -/
structure Unaffected (g : Gateway σ) (plan : List (Entry σ)) : Prop where
  /-- The other events are the same moments as in the run without the added ones: they cause the
  same at the same times, and leave the same gateway. -/
  own : ((g.history plan).filter (!·.entry.added)).map (·.uncounted) =
    (g.history (plan.filter (!·.added))).map (·.uncounted)
  /-- An added event causes the response to its own request, and does not change the gateway. -/
  added : ∀ m ∈ g.history plan, m.entry.added = true →
    m.after.uncounted = m.before.uncounted ∧
      ∃ number wall fresh r target response, m.entry.event = .request number wall fresh r target ∧
        m.effects = [.respond number response]
  /-- In the end the gateway is the same. -/
  after : (g.run (plan.map (·.event))).1.uncounted =
    (g.run ((plan.filter (!·.added)).map (·.event))).1.uncounted

/-- The two runs may begin at gateways that differ in their counts of answers already. -/
theorem history_congr {g h : Gateway σ} (hsame : g.uncounted = h.uncounted)
    {plan : List (Entry σ)}
    (hrefused : ∀ m ∈ g.history plan, m.entry.added = true → m.before.Refuses m.entry.event) :
    ((g.history plan).filter (!·.entry.added)).map (·.uncounted) =
        (h.history (plan.filter (!·.added))).map (·.uncounted) ∧
      (g.run (plan.map (·.event))).1.uncounted =
        (h.run ((plan.filter (!·.added)).map (·.event))).1.uncounted := by
  induction plan generalizing g h with
  | nil => exact ⟨rfl, hsame⟩
  | cons entry rest ih =>
    rw [history, List.forall_mem_cons] at hrefused
    by_cases hadded : entry.added = true
    · have hstate := (step_of_refuses (hrefused.1 hadded)).1
      have hrest := ih (hstate.trans hsame) hrefused.2
      simpa [history, hadded] using hrest
    · obtain ⟨hstate, heffects⟩ := step_congr hsame entry.event
      have hrest := ih hstate hrefused.2
      simpa [history, hadded, Moment.uncounted, hsame, hstate, heffects] using hrest

/-- **Refused requests do not affect the tunnel.**  Whatever requests are added to a run, if each is
refused where it comes or asks how the gateway is, then the other requests, the sessions and the
target see the run without them. -/
theorem refusals_unaffected (g : Gateway σ) (plan : List (Entry σ))
    (hrefused : ∀ m ∈ g.history plan, m.entry.added = true → m.before.Refuses m.entry.event) :
    g.Unaffected plan where
  own := (history_congr rfl hrefused).1
  added := by
    intro m hm hadded
    have hstep := step_of_refuses (hrefused m hm hadded)
    rwa [step_of_mem_history hm] at hstep
  after := (history_congr rfl hrefused).2

/-! ## Requests that are refused whenever they come -/

/-- `h` has the settings of `g`, and no request waits at it that does not wait at `g`. -/
structure Keeps (g h : Gateway σ) : Prop where
  route : h.route = g.route
  maxBodySize : h.maxBodySize = g.maxBodySize
  policy : h.policy = g.policy
  callers : h.callers ⊆ g.callers

omit [Sink σ] in
theorem keeps_answer (g : Gateway σ) (number : Nat) (a : Tunnel.Answer) (taken : Bool) :
    g.Keeps (g.answer number a taken).1 := by
  unfold answer
  split
  · exact ⟨rfl, rfl, rfl, List.Subset.refl _⟩
  · cases taken <;> exact ⟨rfl, rfl, rfl, fun _ hcaller => (List.mem_filter.1 hcaller).1⟩

omit [Sink σ] in
theorem Keeps.trans {g h k : Gateway σ} (hgh : g.Keeps h) (hhk : h.Keeps k) : g.Keeps k :=
  ⟨hhk.route.trans hgh.route, hhk.maxBodySize.trans hgh.maxBodySize, hhk.policy.trans hgh.policy,
    List.Subset.trans hhk.callers hgh.callers⟩

omit [Sink σ] in
theorem keeps_relay (g : Gateway σ) (effects : List Tunnel.Server.Effect) :
    g.Keeps (g.relay effects).1 := by
  induction effects generalizing g with
  | nil => exact ⟨rfl, rfl, rfl, List.Subset.refl _⟩
  | cons effect rest ih =>
    cases effect with
    | answer number a taken => exact (g.keeps_answer number a taken).trans (ih _)
    | opened _ | ended _ _ | cleared _ => exact ih g

/-- The number of a request. -/
def Event.number? : Event σ → Option Nat
  | .request number _ _ _ _ => some number
  | .tunnel _ => none

/-- An event changes no setting, and only a request that comes in may begin to wait. -/
theorem step_keeps (g : Gateway σ) (event : Event σ) :
    (g.step event).1.route = g.route ∧ (g.step event).1.maxBodySize = g.maxBodySize ∧
      (g.step event).1.policy = g.policy ∧
      ∀ caller ∈ (g.step event).1.callers,
        caller ∈ g.callers ∨ event.number? = some caller.number := by
  cases event with
  | tunnel event =>
    obtain ⟨hroute, hsize, hpolicy, hcallers⟩ :=
      keeps_relay { g with tunnel := (g.tunnel.step event).1 } (g.tunnel.step event).2
    exact ⟨hroute, hsize, hpolicy, fun caller hcaller => .inl (hcallers hcaller)⟩
  | request number wall fresh r target =>
    cases hscreen : g.screen wall r with
    | answered _ | health | tooLarge =>
      simp +contextual [step, arrive, hscreen, countResponse]
    | passed =>
      simp only [step, arrive, hscreen]
      obtain ⟨hroute, hsize, hpolicy, hcallers⟩ := keeps_relay
        { g with
          tunnel := (g.tunnel.arrive number r.toMessage target).1
          callers := g.callers ++ [Caller.ofRequest number fresh r] }
        (g.tunnel.arrive number r.toMessage target).2
      refine ⟨hroute, hsize, hpolicy, fun caller hcaller => ?_⟩
      obtain hold | hnew := List.mem_append.1 (hcallers hcaller)
      · exact .inl hold
      · rw [List.mem_singleton.1 hnew]
        exact .inr rfl

omit [Sink σ] in
/-- What the tunnel is doing has no part in it whether a request is turned away. -/
theorem turnedAway_congr {g h : Gateway σ} (hroute : h.route = g.route)
    (hsize : h.maxBodySize = g.maxBodySize) (hpolicy : h.policy = g.policy) (wall : UInt64)
    (r : Request) : h.TurnedAway wall r ↔ g.TurnedAway wall r := by
  obtain ⟨route, size, policy, _, _⟩ := g
  obtain rfl : h.route = route := hroute
  obtain rfl : h.maxBodySize = size := hsize
  obtain rfl : h.policy = policy := hpolicy
  rfl

/-- **Requests that are turned away at the beginning of a run are so wherever they come**, if every
request has a number of its own. -/
theorem refuses_of_turnedAway (g : Gateway σ) (plan : List (Entry σ))
    (hnew : ∀ number ∈ plan.filterMap (·.event.number?), number ∉ g.callers.map (·.number))
    (hown : (plan.filterMap (·.event.number?)).Nodup)
    (hturned : ∀ entry ∈ plan, entry.added = true → ∃ number wall fresh r target,
      entry.event = .request number wall fresh r target ∧ g.TurnedAway wall r) :
    ∀ m ∈ g.history plan, m.entry.added = true → m.before.Refuses m.entry.event := by
  induction plan generalizing g with
  | nil => simp [history]
  | cons entry rest ih =>
    obtain ⟨hroute, hsize, hpolicy, hcallers⟩ := g.step_keeps entry.event
    rw [history, List.forall_mem_cons]
    constructor
    · intro hadded
      obtain ⟨number, wall, fresh, r, target, heq, haway⟩ :=
        hturned entry List.mem_cons_self hadded
      have hfree : number ∉ g.callers.map (·.number) :=
        hnew number (by simp [heq, Event.number?])
      show g.Refuses entry.event
      rw [heq]
      exact (g.refuses_iff number wall fresh r target hfree).2 haway
    · refine ih _ ?_ ?_ ?_
      · intro number hnumber hmem
        obtain ⟨caller, hcaller, rfl⟩ := List.mem_map.1 hmem
        obtain hold | hfirst := hcallers caller hcaller
        · refine hnew caller.number ?_ (List.mem_map_of_mem hold)
          rw [List.filterMap_cons]
          split
          · exact hnumber
          · exact List.mem_cons_of_mem _ hnumber
        · simp only [List.filterMap_cons, hfirst] at hown
          exact (List.nodup_cons.1 hown).1 hnumber
      · rw [List.filterMap_cons] at hown
        split at hown
        · exact hown
        · exact hown.of_cons
      · intro later hlater hadded
        obtain ⟨number, wall, fresh, r, target, heq, haway⟩ :=
          hturned later (List.mem_cons_of_mem entry hlater) hadded
        exact ⟨number, wall, fresh, r, target, heq,
          (turnedAway_congr hroute hsize hpolicy wall r).2 haway⟩

/-- A gateway that wants a secret, and takes two bytes at most. -/
def guarded : Gateway SoundSink :=
  { route := ⟨[.fixed "t"]⟩
    maxBodySize := 2
    policy := .sharedSecret ⟨.authorization, [7], by decide⟩
    tunnel := .ofTimeouts Tunnel.Timeouts.standard }

/-- A request with the secret and this body. -/
def keyed (body : Bytes) : Request :=
  { path := "/t", headers := [(.authorization, [7])], body }

theorem screen_guarded {r : Request} (hlength : declaredLength? r.headers = none)
    (hpath : pathOf r = "/t") : guarded.screen 0 r = guarded.screenTunnel 0 2 r := by
  have hsplit : "/t".splitOn "/" = ["", "t"] := by
    simp +decide [String.splitOn, String.splitOnAux]
  have htakes : guarded.route.takes "/t" = true := by
    rw [Route.takes, Route.split?, hsplit]
    rfl
  have hother : "/t" ≠ healthPath := by decide
  simp only [screen, hlength, hpath, isTunnelPath, htakes, hother]
  rfl

/-- A poll opens a session.  Before it gets there, requests come without the secret, with bytes but
no number for them, with too many bytes, and for the health path. -/
theorem refusals_unaffected_guarded :
    let plan : List (Entry SoundSink) :=
      [⟨.request 1 0 [] (keyed []) (some ⟨⟩), false⟩, ⟨.request 2 0 [] { path := "/t" } none, true⟩,
        ⟨.request 3 0 [] (keyed [1]) none, true⟩, ⟨.request 4 0 [] (keyed [1, 2, 3]) none, true⟩,
        ⟨.request 5 0 [] { path := "/health" } none, true⟩, ⟨.tunnel (.join 1), false⟩]
    (∀ m ∈ guarded.history plan, m.entry.added = true → m.before.Refuses m.entry.event) ∧
      guarded.Unaffected plan := by
  intro plan
  have hbare : guarded.TurnedAway 0 { path := "/t" } := by
    rw [TurnedAway, screen_guarded (by decide) (by decide +kernel)]
    exact .inl (by decide)
  have hunnumbered : guarded.TurnedAway 0 (keyed [1]) := by
    rw [TurnedAway, screen_guarded (by decide +kernel) (by decide +kernel)]
    exact ⟨.missingSequence, rfl⟩
  have hlong : guarded.TurnedAway 0 (keyed [1, 2, 3]) := by
    rw [TurnedAway, screen_guarded (by decide +kernel) (by decide +kernel)]
    trivial
  have hhealth : guarded.TurnedAway 0 { path := "/health" } := by
    rw [TurnedAway, show guarded.screen 0 { path := "/health" } = .health by decide +kernel]
    trivial
  have haway : ∀ entry ∈ plan, entry.added = true → ∃ number wall fresh r target,
      entry.event = .request number wall fresh r target ∧ guarded.TurnedAway wall r := by
    intro entry hentry hadded
    simp only [plan, List.mem_cons, List.not_mem_nil, or_false] at hentry
    obtain rfl | rfl | rfl | rfl | rfl | rfl := hentry
    · cases hadded
    · exact ⟨_, _, _, _, _, rfl, hbare⟩
    · exact ⟨_, _, _, _, _, rfl, hunnumbered⟩
    · exact ⟨_, _, _, _, _, rfl, hlong⟩
    · exact ⟨_, _, _, _, _, rfl, hhealth⟩
    · cases hadded
  have hrefused := refuses_of_turnedAway guarded plan (by simp [guarded]) (by decide) haway
  exact ⟨hrefused, refusals_unaffected guarded plan hrefused⟩

end Gateway
end PollTunnel
