import Mathlib.Order.Bounds.Basic
import PollTunnel.Proofs.Delivery.Stream

/-!
# The law of a forwarder whose device never fails

A call *admits* its payload when it succeeds and no call before admitted a payload of that number
(`admitted`).  On a device that never fails the admitted payloads determine everything: how far the
forwarder has come, what waits, what is written, and what the next call does.

`Accounts admitted f` is the invariant, `Accounts.forward` the step and `Accounts.forwardAll` the
run.  What the device does is used only once, to see that no write leaves a part
(`forward_ne_io`); the rest is `Carries`, together with the fact that nothing that was admitted gets
lost before it is written.
-/

set_option autoImplicit false

namespace PollTunnel
namespace Forwarder

variable {σ : Type}

/-! ## Admissions -/

/-- Count a call: its payload is admitted if the call succeeded and the number is new. -/
def takeIn (admitted : List Payload) (call : Payload × Except Payload.Error Unit) : List Payload :=
  if call.2.isOk = true ∧ ∀ q ∈ admitted, q.sequence ≠ call.1.sequence then admitted ++ [call.1]
  else admitted

theorem takeIn_of_new {admitted : List Payload} {p : Payload} {result : Except Payload.Error Unit}
    (hok : result = .ok ()) (hnew : ∀ q ∈ admitted, q.sequence ≠ p.sequence) :
    takeIn admitted (p, result) = admitted ++ [p] :=
  if_pos ⟨by rw [hok]; rfl, hnew⟩

theorem takeIn_of_mem {admitted : List Payload} {p q : Payload} (hq : q ∈ admitted)
    (hqp : q.sequence = p.sequence) (result : Except Payload.Error Unit) :
    takeIn admitted (p, result) = admitted :=
  if_neg fun h => h.2 q hq hqp

theorem takeIn_error (admitted : List Payload) (p : Payload) (e : Payload.Error) :
    takeIn admitted (p, .error e) = admitted :=
  if_neg fun h => Bool.false_ne_true h.1

variable [Sink σ]

/-- Calls one after another, each with its result. -/
def calls (f : Forwarder σ) (ps : List Payload) : List (Payload × Except Payload.Error Unit) :=
  ps.zip (f.forwardAll ps).1

/-- The payloads that a fresh forwarder admits, in the order of the calls. -/
def admitted (device : σ) (ps : List Payload) : List Payload :=
  ((onto device).calls ps).foldl takeIn []

theorem calls_cons (f : Forwarder σ) (p : Payload) (ps : List Payload) :
    f.calls (p :: ps) = (p, (f.forward p).1) :: (f.forward p).2.calls ps := rfl

theorem forwardAll_cons_snd (f : Forwarder σ) (p : Payload) (ps : List Payload) :
    (f.forwardAll (p :: ps)).2 = ((f.forward p).2.forwardAll ps).2 := rfl

theorem calls_append (f : Forwarder σ) (ps qs : List Payload) :
    f.calls (ps ++ qs) = f.calls ps ++ (f.forwardAll ps).2.calls qs := by
  induction ps generalizing f with
  | nil => rfl
  | cons p ps ih => rw [List.cons_append, calls_cons, ih, calls_cons, forwardAll_cons_snd,
      List.cons_append]

/-! ## A device that never fails -/

theorem release_of_neverFails (ps : List Payload) : ∀ (outlet : Outlet σ) (last : Nat),
    Sink.NeverFails outlet.device → (release outlet last ps).1 = .ok () ∧
      Sink.NeverFails (release outlet last ps).2.outlet.device := by
  induction ps with
  | nil => exact fun outlet last h => ⟨rfl, h⟩
  | cons p ps ih =>
    intro outlet last h
    rw [release]
    split
    · obtain ⟨hok, h'⟩ := outlet.send_of_neverFails p.data h
      split
      · rename_i outlet' heq
        rw [heq] at h'
        exact ih outlet' p.sequence h'
      · rename_i e outlet' heq
        rw [heq] at hok
        cases hok
    · exact ⟨rfl, h⟩

/-- The only error that is left is a full queue. -/
theorem forward_of_neverFails (f : Forwarder σ) (p : Payload)
    (h : Sink.NeverFails f.outlet.device) :
    (∀ e, (f.forward p).1 ≠ .error (.io e)) ∧
      Sink.NeverFails (f.forward p).2.outlet.device := by
  rcases forward_cases f p with ⟨-, heq⟩ | ⟨-, -, heq⟩ | ⟨-, -, -, heq⟩ | ⟨-, -, -, heq⟩
  · rw [heq]; exact ⟨by simp, h⟩
  · obtain ⟨hok, h'⟩ := release_of_neverFails (p :: f.queue) f.outlet f.last h
    rw [heq]
    exact ⟨by simp [hok], h'⟩
  · rw [heq]; exact ⟨by simp, h⟩
  · rw [heq]; exact ⟨by simp, h⟩

/-! ## The invariant -/

/-- A forwarder on a device that never fails, and what it has admitted. -/
structure Accounts (admitted : List Payload) (f : Forwarder σ) : Prop where
  carries : Carries admitted [] f
  /-- A number is admitted once. -/
  distinct : (admitted.map (·.sequence)).Nodup
  /-- What is admitted waits until it is written. -/
  waits : ∀ p ∈ admitted, f.last < p.sequence → p ∈ f.queue
  neverFails : Sink.NeverFails f.outlet.device

theorem accounts_onto {device : σ} (h : Sink.NeverFails device) : Accounts [] (onto device) :=
  ⟨carries_onto device, List.nodup_nil, fun _ hp => absurd hp List.not_mem_nil, h⟩

namespace Accounts

variable {adm : List Payload} {f : Forwarder σ}

theorem mem_queue_iff (h : Accounts adm f) {p : Payload} :
    p ∈ f.queue ↔ p ∈ adm ∧ f.last < p.sequence :=
  ⟨fun hp => ⟨h.carries.queue_mem p hp, Nat.lt_of_succ_lt (h.carries.inOrder.above p hp)⟩,
    fun hp => h.waits p hp.1 hp.2⟩

theorem next_not_mem (h : Accounts adm f) {p : Payload} (hp : p ∈ adm) :
    p.sequence ≠ f.last + 1 := fun heq =>
  absurd (h.carries.inOrder.above p (h.waits p hp (by omega))) (by omega)

/-- A number is dropped as a duplicate exactly if it is admitted. -/
theorem duplicate_iff (h : Accounts adm f) (p : Payload) :
    (p.sequence ≤ f.last ∨ f.holds p.sequence = true) ↔ ∃ q ∈ adm, q.sequence = p.sequence := by
  constructor
  · rintro (hle | hholds)
    · exact h.carries.complete p.sequence p.sequence_pos hle
    · obtain ⟨q, hq, hqp⟩ := holds_iff.1 hholds
      exact ⟨q, h.carries.queue_mem q hq, hqp⟩
  · rintro ⟨q, hq, hqp⟩
    rcases Nat.lt_or_ge f.last q.sequence with hlt | hge
    · exact Or.inr (holds_iff.2 ⟨q, h.waits q hq hlt, hqp⟩)
    · exact Or.inl (hqp ▸ hge)

/-- The forwarder has come as far as the admitted numbers go without a gap. -/
theorem isGreatest_last (h : Accounts adm f) :
    IsGreatest {n | ∀ k, 1 ≤ k → k ≤ n → ∃ p ∈ adm, p.sequence = k} f.last := by
  refine ⟨h.carries.complete, fun n hn => Nat.le_of_not_lt fun hlt => ?_⟩
  obtain ⟨p, hp, hpn⟩ := hn (f.last + 1) (by omega) hlt
  exact h.next_not_mem hp hpn

/-- What a call does is decided by what is admitted and by the room in the queue. -/
theorem forward_cases (h : Accounts adm f) (p : Payload) :
    ((∃ q ∈ adm, q.sequence = p.sequence) ∧ f.forward p = (.ok (), f)) ∨
    ((∀ q ∈ adm, q.sequence ≠ p.sequence) ∧ p.sequence ≠ f.last + 1 ∧
      f.queue.length = maxQueued ∧ f.forward p = (.error .queueFull, f)) ∨
    ((∀ q ∈ adm, q.sequence ≠ p.sequence) ∧
      (p.sequence = f.last + 1 ∨ f.queue.length < maxQueued) ∧ (f.forward p).1 = .ok ()) := by
  have hnew : f.last < p.sequence → f.holds p.sequence = false →
      ∀ q ∈ adm, q.sequence ≠ p.sequence := by
    intro hlast hholds q hq hqp
    rcases (h.duplicate_iff p).2 ⟨q, hq, hqp⟩ with hle | hholds'
    · omega
    · rw [hholds] at hholds'; cases hholds'
  rcases Forwarder.forward_cases f p with
    ⟨hdup, heq⟩ | ⟨hp, hholds, heq⟩ | ⟨hp, hholds, hfull, heq⟩ | ⟨hp, hholds, hroom, heq⟩
  · exact Or.inl ⟨(h.duplicate_iff p).1 hdup, heq⟩
  · refine Or.inr (Or.inr ⟨hnew (by omega) hholds, Or.inl hp, ?_⟩)
    rw [heq]
    exact (release_of_neverFails _ f.outlet f.last h.neverFails).1
  · have hbounded := h.carries.inOrder.bounded
    exact Or.inr (Or.inl ⟨hnew (by omega) hholds, by omega, by omega, heq⟩)
  · exact Or.inr (Or.inr ⟨hnew (by omega) hholds, Or.inr hroom, by rw [heq]⟩)

/-- Nothing is taken out of the queue but what is written. -/
theorem mem_queue_forward (h : Accounts adm f) {p : Payload}
    (hok : (f.forward p).1 = .ok ()) {q : Payload} (hq : q ∈ f.queue ∨ q = p)
    (hlast : (f.forward p).2.last < q.sequence) (hnew : ∀ q ∈ adm, q.sequence ≠ p.sequence) :
    q ∈ (f.forward p).2.queue := by
  rcases Forwarder.forward_cases f p with
    ⟨hdup, -⟩ | ⟨-, -, heq⟩ | ⟨-, -, -, heq⟩ | ⟨-, -, -, heq⟩
  · obtain ⟨r, hr, hrp⟩ := (h.duplicate_iff p).1 hdup
    exact absurd hrp (hnew r hr)
  · rw [heq] at hok hlast ⊢
    rcases release_cases (p :: f.queue) f.outlet f.last with
      ⟨done, rest, outlet, hsplit, hfollows, -, -, hr⟩ | ⟨_, _, _, _, _, e, _, _, _, _, _, hr⟩
    · rw [hr] at hlast ⊢
      have hmem : q ∈ done ++ rest := hsplit ▸ List.mem_cons.2 hq.symm
      rcases List.mem_append.1 hmem with hdone | hrest
      · exact absurd (hfollows.le_of_mem hdone) (Nat.not_le_of_lt hlast)
      · exact hrest
    · rw [hr] at hok; cases hok
  · rw [heq] at hok; cases hok
  · rw [heq]
    exact mem_enqueue.2 hq.symm

theorem forward_next_ok (h : Accounts adm f) {p : Payload} (hp : p.sequence = f.last + 1) :
    (f.forward p).1 = .ok () := by
  rcases h.forward_cases p with ⟨⟨q, hq, hqp⟩, -⟩ | ⟨-, hne, -, -⟩ | ⟨-, -, hok⟩
  · exact absurd (hqp.trans hp) (h.next_not_mem hq)
  · exact absurd hp hne
  · exact hok

/-- The next payload takes the forwarder on. -/
theorem last_lt_forward (h : Accounts adm f) {p : Payload} (hp : p.sequence = f.last + 1) :
    f.last < (f.forward p).2.last := by
  refine Nat.lt_of_not_le fun hle => ?_
  -- otherwise the payload would still wait, although it is the next one
  have hmem := h.mem_queue_forward (h.forward_next_ok hp) (Or.inr rfl) (by omega)
    fun q hq => hp ▸ h.next_not_mem hq
  have habove := (h.carries.inOrder.forward p).above p hmem
  have hmono := last_le_forward f p
  omega

/-- **One call keeps the accounts.** -/
theorem forward (h : Accounts adm f) (p : Payload) :
    Accounts (takeIn adm (p, (f.forward p).1)) (f.forward p).2 := by
  rcases h.forward_cases p with ⟨⟨q, hq, hqp⟩, heq⟩ | ⟨-, -, -, heq⟩ | ⟨hnew, -, hok⟩
  · rw [takeIn_of_mem hq hqp, heq]; exact h
  · rw [heq, takeIn_error]; exact h
  · obtain ⟨hio, hfails⟩ := forward_of_neverFails f p h.neverFails
    obtain ⟨part, hcarries, hpart⟩ := h.carries.forward h.distinct hnew
    rw [takeIn_of_new hok hnew]
    refine ⟨hpart hio ▸ hcarries, Payload.nodup_append_singleton h.distinct hnew,
      fun q hq hlast => h.mem_queue_forward hok ?_ hlast hnew, hfails⟩
    rcases List.mem_append.1 hq with hq | hq
    · exact Or.inl (h.waits q hq (Nat.lt_of_le_of_lt (last_le_forward f p) hlast))
    · exact Or.inr (List.mem_singleton.1 hq)

/-- **So do calls one after another.** -/
theorem forwardAll (h : Accounts adm f) (ps : List Payload) :
    Accounts ((f.calls ps).foldl takeIn adm) (f.forwardAll ps).2 := by
  induction ps generalizing adm f with
  | nil => exact h
  | cons p ps ih =>
    rw [calls_cons, List.foldl_cons, forwardAll_cons_snd]
    exact ih (h.forward p)

/-- A payload that is not admitted yet can still be: the numbers before it are what is missing. -/
theorem exists_forwardAll_admits {p : Payload} : ∀ {adm : List Payload} {f : Forwarder σ},
    Accounts adm f → (∀ q ∈ adm, q.sequence ≠ p.sequence) →
    ∃ qs, (∀ q ∈ (f.calls qs).foldl takeIn adm, q.sequence ≠ p.sequence) ∧
      p ∈ (f.calls (qs ++ [p])).foldl takeIn adm := by
  intro adm f h hnew
  -- on how far the forwarder still has to come
  induction hgap : p.sequence - f.last using Nat.strongRecOn generalizing adm f with
  | _ gap ih =>
    have hlast : f.last < p.sequence := Nat.lt_of_not_le fun hle => by
      obtain ⟨q, hq, hqp⟩ := h.carries.complete p.sequence p.sequence_pos hle
      exact hnew q hq hqp
    by_cases hp : p.sequence = f.last + 1
    · refine ⟨[], hnew, ?_⟩
      rw [List.nil_append, calls_cons, List.foldl_cons, takeIn_of_new (h.forward_next_ok hp) hnew]
      exact List.mem_append_right _ (List.mem_singleton_self p)
    · have hmax := p.sequence_le
      let q : Payload := ⟨f.last + 1, [], Nat.succ_pos _, by omega⟩
      have hstep := h.forward q
      have hadm : ∀ r ∈ takeIn adm (q, (f.forward q).1), r.sequence ≠ p.sequence := by
        intro r hr
        rw [takeIn] at hr
        split at hr
        · rcases List.mem_append.1 hr with hr | hr
          · exact hnew r hr
          · rw [List.mem_singleton.1 hr]; exact fun heq => hp heq.symm
        · exact hnew r hr
      have hlast' : f.last < (f.forward q).2.last := h.last_lt_forward rfl
      obtain ⟨qs, hqs, hp'⟩ := ih _ (by omega) hstep hadm rfl
      exact ⟨q :: qs, hqs, hp'⟩

end Accounts

/-! ## The law -/

/-- **The law of the forwarder.**  After any calls on a device that never fails, the payloads that
they admitted say how far the forwarder has come, what waits and what is written; and they say what
a further call does: it is refused exactly if its number is new, not the next one, and the queue is
full, and a call that is refused or repeats a number changes nothing.  A refusal is not for good. -/
theorem forwardAll_law {device : σ} (h : Sink.NeverFails device) (ps : List Payload) :
    let f := ((onto device).forwardAll ps).2
    let adm := admitted device ps
    (adm.map (·.sequence)).Nodup ∧
    IsGreatest {n | ∀ k, 1 ≤ k → k ≤ n → ∃ p ∈ adm, p.sequence = k} f.last ∧
    (f.queue.Nodup ∧ (∀ p, p ∈ f.queue ↔ p ∈ adm ∧ f.last < p.sequence) ∧
      ∀ p ∈ f.queue, p.sequence ≠ f.last + 1) ∧
    f.outlet.written = Payload.assembled adm f.last ∧
    ∀ p, ((f.forward p).1 = .error .queueFull ↔
        (∀ q ∈ adm, q.sequence ≠ p.sequence) ∧ p.sequence ≠ f.last + 1 ∧ f.queue.length = 100) ∧
      ((f.forward p).1 = .ok () ∨ (f.forward p).1 = .error .queueFull) ∧
      ((f.forward p).1 = .error .queueFull ∨ (∃ q ∈ adm, q.sequence = p.sequence) →
        (f.forward p).2 = f) ∧
      ((f.forward p).1 = .error .queueFull →
        ∃ qs, p ∉ admitted device (ps ++ p :: qs) ∧ p ∈ admitted device (ps ++ p :: qs ++ [p])) := by
  intro f adm
  have hacc : Accounts adm f := (accounts_onto h).forwardAll ps
  refine ⟨hacc.distinct, hacc.isGreatest_last, ⟨?_, fun p => hacc.mem_queue_iff, fun p hp => ?_⟩, ?_,
    fun p => ?_⟩
  · exact hacc.carries.inOrder.sorted.imp fun hlt heq => absurd (heq ▸ hlt) (Nat.lt_irrefl _)
  · exact hacc.next_not_mem (hacc.carries.queue_mem p hp)
  · rw [hacc.carries.written, List.append_nil]
  · rcases hacc.forward_cases p with
      ⟨⟨q, hq, hqp⟩, heq⟩ | ⟨hnew, hnext, hfull, heq⟩ | ⟨hnew, hroom, hok⟩
    · rw [heq]
      exact ⟨⟨by simp, fun hc => absurd hqp (hc.1 q hq)⟩, Or.inl rfl, fun _ => rfl, by simp⟩
    · refine ⟨?_, Or.inr (by rw [heq]), fun _ => by rw [heq], fun _ => ?_⟩
      · rw [heq]; exact ⟨fun _ => ⟨hnew, hnext, hfull⟩, fun _ => rfl⟩
      · obtain ⟨qs, hqs, hp⟩ := hacc.exists_forwardAll_admits hnew
        have hskip : ∀ rs, admitted device (ps ++ p :: rs) = (f.calls rs).foldl takeIn adm := by
          intro rs
          show ((onto device).calls (ps ++ p :: rs)).foldl takeIn [] = _
          rw [calls_append, List.foldl_append, calls_cons, List.foldl_cons]
          show ((f.forward p).2.calls rs).foldl takeIn (takeIn adm (p, (f.forward p).1)) = _
          rw [heq, takeIn_error]
        refine ⟨qs, ?_, ?_⟩
        · rw [hskip]; exact fun hmem => hqs p hmem rfl
        · rw [List.append_assoc, List.cons_append, hskip]; exact hp
    · rw [hok]
      refine ⟨⟨by simp, fun hc => ?_⟩, Or.inl rfl, fun hc => ?_, by simp⟩
      · rcases hroom with hp | hroom
        · exact absurd hp hc.2.1
        · exact absurd hc.2.2 (Nat.ne_of_lt hroom)
      · rcases hc with hc | ⟨q, hq, hqp⟩
        · cases hc
        · exact absurd hqp (hnew q hq)

/-- Numbers three and two, two once more with other bytes, and one: the repetition is lost. -/
theorem forwardAll_law_reordered :
    let ps : List Payload := [⟨3, [99], by decide, by decide⟩, ⟨2, [98], by decide, by decide⟩,
      ⟨2, [120], by decide, by decide⟩, ⟨1, [97], by decide, by decide⟩]
    Sink.NeverFails SoundSink.mk ∧
      IsGreatest {n | ∀ k, 1 ≤ k → k ≤ n → ∃ p ∈ admitted SoundSink.mk ps, p.sequence = k} 3 ∧
      Payload.assembled (admitted SoundSink.mk ps) 3 = [97, 98, 99] := by
  intro ps
  have hsound := Sink.neverFails_soundSink SoundSink.mk
  obtain ⟨-, hlast, -, hwritten, -⟩ := forwardAll_law hsound ps
  have h3 : ((onto SoundSink.mk).forwardAll ps).2.last = 3 := by decide +kernel
  have habc : ((onto SoundSink.mk).forwardAll ps).2.outlet.written = [97, 98, 99] := by decide +kernel
  rw [h3] at hlast hwritten
  exact ⟨hsound, hlast, hwritten.symm.trans habc⟩

end Forwarder
end PollTunnel
