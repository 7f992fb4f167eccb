import PollTunnel.Http.Gateway

/-!
# The gateway without its count of answers

Nothing that the gateway or the server behind it does depends on how many answers were counted, so
both may be looked at without these counts (`uncounted`).  `step_congr` says that two gateways which
are the same in this sense stay so, and cause the same, whatever happens to them.
-/

set_option autoImplicit false

namespace PollTunnel

/-- The counts without those of answers. -/
def Metrics.uncounted (m : Metrics) : Metrics := { m with responses := [] }

namespace Tunnel
namespace Server

variable {σ : Type}

/-- The server without its count of answers. -/
def uncounted (s : Server σ) : Server σ := { s with metrics := s.metrics.uncounted }

theorem count_uncounted (m : Metrics) (effects : List Session.Effect) :
    count m.uncounted effects = (count m effects).uncounted := by
  induction effects generalizing m with
  | nil => rfl
  | cons effect rest ih =>
    cases effect with
    | passed direction p =>
      cases direction with
      | inbound => exact ih (m.recordPayload .inbound p.data.length)
      | outbound => exact ih (m.recordPayload .outbound p.data.length)
    | reply _ => exact ih m
    | ended _ => exact ih m

section Fields

variable (s : Server σ)

@[simp] theorem sessions_uncounted : s.uncounted.sessions = s.sessions := rfl

@[simp] theorem current_uncounted : s.uncounted.current = s.current := rfl

@[simp] theorem arriving_uncounted : s.uncounted.arriving = s.arriving := rfl

@[simp] theorem forwarding_uncounted : s.uncounted.forwarding = s.forwarding := rfl

@[simp] theorem forwarding?_uncounted (number : Nat) :
    s.uncounted.forwarding? number = s.forwarding? number := rfl

end Fields

theorem arrive_uncounted (s : Server σ) (number : Nat) (request : Message) (target : Option σ) :
    s.uncounted.arrive number request target =
      (s.arrive number request target).map uncounted id := by
  cases hmessage : Received.ofMessage request with
  | error e =>
    simp only [arrive, hmessage]
    rfl
  | ok received =>
    cases hcurrent : s.current with
    | some session =>
      simp only [arrive, hmessage, current_uncounted, hcurrent]
      rfl
    | none =>
      cases target <;> simp only [arrive, hmessage, current_uncounted, hcurrent] <;> rfl

theorem clear_uncounted (s : Server σ) (k : Nat) :
    s.uncounted.clear k = (s.clear k).map uncounted id := by
  cases hfound : s.sessions[k]? with
  | none =>
    simp only [clear, sessions_uncounted, hfound]
    rfl
  | some found =>
    simp only [clear, sessions_uncounted, hfound]
    by_cases hplace : found.phase = .shutDown ∧ s.current = some k
    · rw [if_pos hplace]
      exact if_pos hplace
    · rw [if_neg hplace]
      exact if_neg hplace

variable [Sink σ] (s : Server σ)

theorem act_uncounted (k : Nat) (event : Session.Event σ) :
    s.uncounted.act k event = (s.act k event).map uncounted id := by
  cases hfound : s.sessions[k]? with
  | none =>
    simp only [act, sessions_uncounted, hfound]
    rfl
  | some found => simp only [act, uncounted, hfound, count_uncounted, Prod.map, id]

theorem join_uncounted (number : Nat) :
    s.uncounted.join number = (s.join number).map uncounted id := by
  cases hvisit : s.arriving.find? (·.number = number) with
  | none =>
    simp only [join, arriving_uncounted, hvisit]
    rfl
  | some visit =>
    have hact := act_uncounted { s with arriving := without s.arriving number } visit.session
      (.join number)
    simp only [join, arriving_uncounted, hvisit]
    rw [show { s.uncounted with arriving := without s.arriving number } =
      ({ s with arriving := without s.arriving number } : Server σ).uncounted from rfl, hact]
    by_cases hopen : s.isOpen visit.session = true
    · rw [if_pos hopen]
      exact Prod.ext (if_pos hopen) rfl
    · rw [if_neg hopen]
      exact Prod.ext (if_neg hopen) rfl

theorem disconnect_uncounted (number : Nat) :
    s.uncounted.disconnect number = (s.disconnect number).map uncounted id := by
  cases hvisit : s.forwarding.find? fun visit => visit.number = number ∧ visit.disconnect = true with
  | none =>
    simp only [disconnect, forwarding_uncounted, hvisit]
    rfl
  | some visit =>
    simp only [disconnect, forwarding_uncounted, hvisit]
    exact act_uncounted { s with forwarding := changed .told s.forwarding visit } visit.session .close

theorem forward_uncounted (number : Nat) :
    s.uncounted.forward number = (s.forward number).map uncounted id := by
  cases hvisit : s.forwarding? number with
  | none =>
    simp only [forward, forwarding?_uncounted, hvisit]
    rfl
  | some visit =>
    simp only [forward, forwarding?_uncounted, forwarding_uncounted, hvisit]
    cases visit.received with
    | payload p =>
      exact act_uncounted { s with forwarding := without s.forwarding number } visit.session _
    | noPayload => rfl

omit [Sink σ] in
theorem write_uncounted (number : Nat) :
    s.uncounted.write number = (s.write number).uncounted := by
  simp only [write, forwarding?_uncounted]
  split
  · rfl
  · split <;> rfl

theorem abandon_uncounted (number : Nat) :
    s.uncounted.abandon number = (s.abandon number).map uncounted id := by
  cases hvisit : s.forwarding? number with
  | none =>
    simp only [abandon, forwarding?_uncounted, hvisit]
    rfl
  | some visit =>
    simp only [abandon, forwarding?_uncounted, hvisit]
    cases visit.received with
    | payload p => exact act_uncounted (s.leave number) visit.session _
    | noPayload => rfl

/-- **No event looks at the answers that were counted**, and the server counts none. -/
theorem step_uncounted (event : Event σ) :
    s.uncounted.step event = (s.step event).map uncounted id := by
  cases event with
  | arrive number request target => exact s.arrive_uncounted number request target
  | join number => exact s.join_uncounted number
  | disconnect number => exact s.disconnect_uncounted number
  | forward number => exact s.forward_uncounted number
  | leave number => rfl
  | abandon number => exact s.abandon_uncounted number
  | clear k => exact s.clear_uncounted k
  | pass nanos => rfl
  | read k outcome => exact s.act_uncounted k (.read outcome)
  | wake k => exact s.act_uncounted k .wake
  | notice k => exact s.act_uncounted k .notice
  | release k => exact s.act_uncounted k .release
  | write number => exact congrArg (·, []) (s.write_uncounted number)
  | shutDown k =>
    simp only [step]
    rw [show s.uncounted.isWriting k = s.isWriting k from rfl]
    split
    · rfl
    · exact s.act_uncounted k .shutDown
  | device k device => exact s.act_uncounted k (.device device)

end Server
end Tunnel

namespace Gateway

variable {σ : Type}

/-- The gateway without its count of answers. -/
def uncounted (g : Gateway σ) : Gateway σ := { g with tunnel := g.tunnel.uncounted }

/-- Two outcomes are the same but for the counts of answers. -/
def Outcome.Same (a b : Outcome σ) : Prop := a.1.uncounted = b.1.uncounted ∧ a.2 = b.2

theorem answer_uncounted (g : Gateway σ) (number : Nat) (a : Tunnel.Answer) (taken : Bool) :
    Outcome.Same (g.uncounted.answer number a taken) (g.answer number a taken) := by
  have hcallers : g.uncounted.callers = g.callers := rfl
  cases hcaller : g.callers.find? (·.number = number) with
  | none =>
    simp only [answer, hcallers, hcaller]
    exact ⟨rfl, rfl⟩
  | some caller => cases taken <;> simp only [answer, hcallers, hcaller] <;> exact ⟨rfl, rfl⟩

theorem relay_answer (g : Gateway σ) (number : Nat) (a : Tunnel.Answer) (taken : Bool)
    (rest : List Tunnel.Server.Effect) :
    g.relay (.answer number a taken :: rest) =
      (((g.answer number a taken).1.relay rest).1,
        (g.answer number a taken).2 ++ ((g.answer number a taken).1.relay rest).2) := rfl

theorem relay_uncounted (g : Gateway σ) (effects : List Tunnel.Server.Effect) :
    Outcome.Same (g.uncounted.relay effects) (g.relay effects) := by
  induction effects generalizing g with
  | nil => exact ⟨rfl, rfl⟩
  | cons effect rest ih =>
    obtain ⟨hstate, hmore⟩ := ih g
    cases effect with
    | answer number a taken =>
      obtain ⟨hanswered, heffects⟩ := g.answer_uncounted number a taken
      -- The two gateways after the answer may differ in its count, so `ih` is used at both.
      obtain ⟨hstate, hmore⟩ := ih (g.uncounted.answer number a taken).1
      obtain ⟨hstate', hmore'⟩ := ih (g.answer number a taken).1
      rw [hanswered] at hstate hmore
      rw [relay_answer, relay_answer, heffects]
      exact ⟨hstate.symm.trans hstate', congrArg (_ ++ ·) (hmore.symm.trans hmore')⟩
    | opened k => exact ⟨hstate, congrArg (Effect.opened k :: ·) hmore⟩
    | ended k cause => exact ⟨hstate, congrArg (Effect.ended k cause :: ·) hmore⟩
    | cleared k => exact ⟨hstate, congrArg (Effect.cleared k :: ·) hmore⟩

theorem screen_uncounted (g : Gateway σ) (wall : UInt64) (r : Request) :
    g.uncounted.screen wall r = g.screen wall r := rfl

theorem arrive_uncounted (g : Gateway σ) (number : Nat) (wall : UInt64) (fresh : Bytes)
    (r : Request) (target : Option σ) :
    Outcome.Same (g.uncounted.arrive number wall fresh r target)
      (g.arrive number wall fresh r target) := by
  cases hscreen : g.screen wall r with
  | passed =>
    simp only [arrive, screen_uncounted, hscreen]
    rw [show g.uncounted.tunnel = g.tunnel.uncounted from rfl,
      g.tunnel.arrive_uncounted number r.toMessage target]
    exact relay_uncounted
      { g with
        tunnel := (g.tunnel.arrive number r.toMessage target).1
        callers := g.callers ++ [Caller.ofRequest number fresh r] } _
  | answered _ | health | tooLarge =>
    simp only [arrive, screen_uncounted, hscreen]
    exact ⟨rfl, rfl⟩

/-- No event looks at the answers that were counted. -/
theorem step_uncounted [Sink σ] (g : Gateway σ) (event : Event σ) :
    Outcome.Same (g.uncounted.step event) (g.step event) := by
  cases event with
  | request number wall fresh r target => exact g.arrive_uncounted number wall fresh r target
  | tunnel event =>
    simp only [step]
    rw [show g.uncounted.tunnel = g.tunnel.uncounted from rfl, g.tunnel.step_uncounted event]
    exact relay_uncounted { g with tunnel := (g.tunnel.step event).1 } _

/-- **Gateways that are the same but for their counts of answers stay so**, and cause the same. -/
theorem step_congr [Sink σ] {g h : Gateway σ} (hsame : g.uncounted = h.uncounted) (event : Event σ) :
    Outcome.Same (g.step event) (h.step event) := by
  obtain ⟨hg, hg'⟩ := g.step_uncounted event
  obtain ⟨hh, hh'⟩ := h.step_uncounted event
  rw [hsame] at hg hg'
  exact ⟨hg.symm.trans hh, hg'.symm.trans hh'⟩

end Gateway
end PollTunnel
