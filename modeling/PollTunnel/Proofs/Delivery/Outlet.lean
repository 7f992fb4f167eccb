import PollTunnel.Payload.Sink

/-!
# What an outlet takes

`Outlet.send` may fail at any byte, and then leaves a part of the bytes written.  The two facts that
every argument about a stream needs are here.

* `Outlet.exists_written_send` — whatever the device does, the bytes written grow by an initial part
  of those sent, and by all of them if the call succeeds.
* `Outlet.deliver` — payloads sent one after another, up to the first that fails.
* `Sink.NeverFails` — a device that goes on taking bytes and flushing for ever.  On such a device
  every call succeeds (`Outlet.send_of_neverFails`), though it may take the bytes in small pieces.
-/

set_option autoImplicit false

namespace PollTunnel

variable {σ : Type} [Sink σ]

/-! ## Any device -/

namespace Outlet

/-- Offering bytes takes some of them, and all of them if it ends well. -/
theorem exists_offer (bytes : Bytes) : ∀ (device : σ) (taken : Nat),
    ∃ n, n ≤ bytes.length ∧ (offer device bytes taken).1 = taken + n ∧
      ((offer device bytes taken).2.1 = .ok () → n = bytes.length) := by
  induction hn : bytes.length using Nat.strongRecOn generalizing bytes with
  | _ size ih =>
    subst hn
    intro device taken
    cases bytes with
    | nil => exact ⟨0, Nat.le_refl _, by rw [offer, Nat.add_zero], fun _ => rfl⟩
    | cons b rest =>
      rw [offer]
      split
      · exact ⟨0, Nat.zero_le _, rfl, fun h => by cases h⟩
      · exact ⟨0, Nat.zero_le _, rfl, fun h => by cases h⟩
      · rename_i k device' _
        have hlt : (rest.drop k).length < (b :: rest).length := by
          rw [List.length_drop, List.length_cons]
          omega
        obtain ⟨n, hle, htaken, hall⟩ := ih (rest.drop k).length hlt (rest.drop k) rfl
          device' (taken + 1 + min k rest.length)
        rw [List.length_drop] at hle
        refine ⟨1 + min k rest.length + n, ?_, by rw [htaken]; omega, fun h => ?_⟩
        · rw [List.length_cons]; omega
        · rw [hall h, List.length_drop, List.length_cons]; omega

theorem exists_written_push (o : Outlet σ) (bytes : Bytes) :
    ∃ part, part <+: bytes ∧ (o.push bytes).2.written = o.written ++ part ∧
      ((o.push bytes).1 = .ok () → part = bytes) := by
  obtain ⟨n, -, htaken, hall⟩ := exists_offer bytes o.device 0
  refine ⟨bytes.take n, List.take_prefix n bytes, ?_, fun h => ?_⟩
  · rw [push, written_mk_cons, htaken, Nat.zero_add]; rfl
  · rw [hall h, List.take_length]

@[simp] theorem written_flush (o : Outlet σ) : o.flush.2.written = o.written := rfl

@[simp] theorem written_shutdown (o : Outlet σ) : o.shutdown.2.written = o.written := rfl

/-- **What a call may do to the stream.**  The bytes written grow by an initial part of those sent;
a call that succeeds writes them all. -/
theorem exists_written_send (o : Outlet σ) (bytes : Bytes) :
    ∃ part, part <+: bytes ∧ (o.send bytes).2.written = o.written ++ part ∧
      ((o.send bytes).1 = .ok () → part = bytes) := by
  obtain ⟨part, hprefix, hwritten, hall⟩ := exists_written_push o bytes
  refine ⟨part, hprefix, ?_⟩
  rw [send]
  split
  · rename_i e o' h
    rw [h] at hwritten
    exact ⟨hwritten, fun h => by cases h⟩
  · rename_i o' h
    rw [h] at hwritten hall
    exact ⟨by rw [written_flush]; exact hwritten, fun _ => hall rfl⟩

/-- Send payloads one after another, until one fails: those that were taken whole and flushed, how
it ended, and the outlet. -/
def deliver (o : Outlet σ) : List Payload → List Payload × Except IoError Unit × Outlet σ
  | [] => ([], .ok (), o)
  | p :: rest =>
    match o.send p.data with
    | (.ok (), o) => (p :: (o.deliver rest).1, (o.deliver rest).2)
    | (.error e, o) => ([], .error e, o)

theorem deliver_cons_of_ok {o o₁ : Outlet σ} {p : Payload} (h : o.send p.data = (.ok (), o₁))
    (rest : List Payload) :
    o.deliver (p :: rest) = (p :: (o₁.deliver rest).1, (o₁.deliver rest).2) := by
  rw [deliver, h]

theorem deliver_cons_of_error {o o₁ : Outlet σ} {p : Payload} {e : IoError}
    (h : o.send p.data = (.error e, o₁)) (rest : List Payload) :
    o.deliver (p :: rest) = ([], .error e, o₁) := by
  rw [deliver, h]

/-- Payloads that are all delivered are written one behind the other. -/
theorem written_deliver {ps : List Payload} : ∀ {o o' : Outlet σ},
    o.deliver ps = (ps, .ok (), o') → o'.written = o.written ++ ps.flatMap (·.data) := by
  induction ps with
  | nil =>
    intro o o' h
    obtain rfl := congrArg (·.2.2) h
    exact (List.append_nil _).symm
  | cons p ps ih =>
    intro o o' h
    obtain ⟨part, -, hwritten, hall⟩ := o.exists_written_send p.data
    rcases hsend : o.send p.data with ⟨result | result, o₁⟩
    · rw [deliver_cons_of_error hsend] at h
      cases h
    · rw [deliver_cons_of_ok hsend, Prod.mk.injEq, List.cons.injEq] at h
      rw [hsend] at hwritten hall
      obtain rfl := hall rfl
      have hrest := ih (Prod.ext h.1.2 h.2)
      calc o'.written = o₁.written ++ ps.flatMap (·.data) := hrest
        _ = o.written ++ (p :: ps).flatMap (·.data) := by
          rw [show o₁.written = o.written ++ p.data from hwritten, List.flatMap_cons,
            List.append_assoc]

end Outlet

/-! ## A device that never fails -/

/-- The device takes at least one of the bytes that it is offered, every flush succeeds, and both
hold again of the device that each call leaves. -/
def Sink.NeverFails (device : σ) : Prop :=
  ∃ good : σ → Prop, good device ∧ ∀ d, good d →
    (∀ bytes, bytes ≠ [] → ∃ n d', Sink.accept d bytes = (.ok (n + 1), d') ∧ good d') ∧
    ∃ d', Sink.flush d = (.ok (), d') ∧ good d'

theorem Sink.NeverFails.accept {device : σ} (h : NeverFails device) {bytes : Bytes}
    (hne : bytes ≠ []) :
    ∃ n d', Sink.accept device bytes = (.ok (n + 1), d') ∧ NeverFails d' := by
  obtain ⟨good, hgood, hstep⟩ := h
  obtain ⟨n, d', heq, hd'⟩ := (hstep device hgood).1 bytes hne
  exact ⟨n, d', heq, good, hd', hstep⟩

theorem Sink.NeverFails.flush {device : σ} (h : NeverFails device) :
    ∃ d', Sink.flush device = (.ok (), d') ∧ NeverFails d' := by
  obtain ⟨good, hgood, hstep⟩ := h
  obtain ⟨d', heq, hd'⟩ := (hstep device hgood).2
  exact ⟨d', heq, good, hd', hstep⟩

namespace Outlet

open Sink (NeverFails)

theorem offer_of_neverFails (bytes : Bytes) : ∀ (device : σ) (taken : Nat), NeverFails device →
    (offer device bytes taken).2.1 = .ok () ∧ NeverFails (offer device bytes taken).2.2 := by
  induction hn : bytes.length using Nat.strongRecOn generalizing bytes with
  | _ size ih =>
    subst hn
    intro device taken h
    cases bytes with
    | nil => rw [offer]; exact ⟨rfl, h⟩
    | cons b rest =>
      obtain ⟨n, device', heq, h'⟩ := h.accept (List.cons_ne_nil b rest)
      have hlt : (rest.drop n).length < (b :: rest).length := by
        rw [List.length_drop, List.length_cons]
        omega
      rw [offer, heq]
      exact ih (rest.drop n).length hlt (rest.drop n) rfl device' _ h'

/-- On a device that never fails every call succeeds, and so will the next. -/
theorem send_of_neverFails (o : Outlet σ) (bytes : Bytes) (h : NeverFails o.device) :
    (o.send bytes).1 = .ok () ∧ NeverFails (o.send bytes).2.device := by
  obtain ⟨hok, h'⟩ := offer_of_neverFails bytes o.device 0 h
  obtain ⟨d, hflush, hd⟩ := h'.flush
  have hpush : (o.push bytes).1 = .ok () := hok
  rw [send]
  split
  · rename_i e o' heq
    rw [heq] at hpush
    cases hpush
  · rename_i o' heq
    have hdevice : o'.device = (offer o.device bytes 0).2.2 := by
      rw [← show (o.push bytes).2 = o' from congrArg Prod.snd heq]; rfl
    rw [flush, hdevice, hflush]
    exact ⟨rfl, hd⟩

end Outlet

/-- A device with no limit on what it takes, and no failing flush, never fails. -/
theorem Sink.neverFails_soundSink (device : SoundSink) : NeverFails device :=
  ⟨fun _ => True, trivial, fun d _ =>
    ⟨fun bytes hne => ⟨bytes.length - 1, d, by
      rw [Nat.sub_add_cancel (List.length_pos_iff.2 hne)]; rfl, trivial⟩, d, rfl, trivial⟩⟩

end PollTunnel
