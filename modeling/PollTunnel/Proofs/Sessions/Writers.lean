import PollTunnel.Proofs.Pairing.Services

/-!
# Who writes on a connection

To pass a payload on may take time.  Only one request at a time writes on the connection of a
session (`Exclusive`), and it is the only one that can keep the connection from being shut down:
this waits while somebody writes (`step_shutDown_of_isWriting`), and does not wait any more once
that request has passed its payload on, or its requester went away (`Exclusive.freed`).

Everything rests on `writer_step`, which says who writes after an event.
-/

set_option autoImplicit false

namespace PollTunnel
namespace Tunnel
namespace Server

variable {σ : Type}

/-- Nobody writes before its turn, and no two requests write on one connection. -/
structure Exclusive (s : Server σ) : Prop where
  /-- A request writes only after it was let in. -/
  arriving : ∀ visit ∈ s.arriving, visit.writing = false
  /-- A request to close goes before a payload. -/
  ready : ∀ visit ∈ s.forwarding, visit.writing = true → visit.disconnect = false
  single : ∀ v ∈ s.forwarding, ∀ w ∈ s.forwarding, v.writing = true → w.writing = true →
    v.session = w.session → v.number = w.number

theorem isWriting_iff {s : Server σ} {k : Nat} :
    s.isWriting k = true ↔ ∃ visit ∈ s.forwarding, visit.session = k ∧ visit.writing = true := by
  simp [isWriting]

theorem exclusive_ofTimeouts (timeouts : Timeouts) :
    (ofTimeouts timeouts : Server σ).Exclusive where
  arriving _ h := absurd h List.not_mem_nil
  ready _ h := absurd h List.not_mem_nil
  single _ h := absurd h List.not_mem_nil

/-- A request that arrives does not write yet. -/
theorem not_writing_of_mem_visiting {s : Server σ} {event : Event σ} {visit : Visit}
    (h : visit ∈ s.visiting event) : visit.writing = false := by
  cases event with
  | arrive number request target =>
    simp only [visiting] at h
    split at h
    · rw [List.mem_singleton.1 h]
    · rw [List.mem_singleton.1 h]
    · exact absurd h List.not_mem_nil
  | _ => exact absurd h List.not_mem_nil

/-- A request begins to write when nobody does so, or does so already. -/
theorem begins_of_changing? {s : Server σ} {number : Nat} {visit : Visit} {change : Visit → Visit}
    (h : s.changing? (.write number) = some (visit, change)) :
    visit.number = number ∧ visit.disconnect = false ∧ change = .begun ∧
      (visit.writing = true ∨ s.isWriting visit.session = false) := by
  obtain ⟨found, hfound, heq⟩ := Option.bind_eq_some_iff.1 h
  obtain ⟨-, hnumber, htold, hturn⟩ := of_forwarding? hfound
  cases hreceived : found.received with
  | noPayload => rw [hreceived] at heq; cases heq
  | payload p =>
    rw [hreceived] at heq
    obtain ⟨rfl, rfl⟩ := Prod.mk.inj (Option.some.inj heq)
    refine ⟨hnumber, htold, rfl, ?_⟩
    simpa [hasTurn, hreceived] using hturn

variable [Sink σ]

/-- **Who writes after an event** did so before, or begins where nobody did.  It does not have to
ask for the end of its session any more. -/
theorem writer_step {s : Server σ} (h : s.Exclusive) {event : Event σ} {visit : Visit}
    (hmem : visit ∈ (s.step event).1.forwarding) (hwrites : visit.writing = true) :
    visit.disconnect = false ∧
      ((∃ v ∈ remaining s.forwarding (s.finishing? event), v.writing = true ∧
          v.number = visit.number ∧ v.session = visit.session) ∨
        event = .write visit.number ∧ s.isWriting visit.session = false) := by
  rw [forwarding_step, List.mem_append] at hmem
  obtain hmem | hmem := hmem
  · obtain ⟨v, hv, rfl | ⟨change, hchange, rfl⟩⟩ := exists_of_mem_changedBy hmem
    · have hready := h.ready visit (remaining_subset _ _ hv) hwrites
      exact ⟨hready, .inl ⟨visit, hv, hwrites, rfl, rfl⟩⟩
    · obtain ⟨hnumber, hsession, -⟩ := kept_of_changing? hchange v
      cases event with
      | disconnect number =>
        obtain ⟨found, -, heq⟩ := Option.map_eq_some_iff.1 hchange
        obtain ⟨rfl, rfl⟩ := Prod.mk.inj heq
        exact ⟨rfl, .inl ⟨found, hv, hwrites, rfl, rfl⟩⟩
      | write number =>
        obtain ⟨rfl, htold, rfl, hturn⟩ := begins_of_changing? hchange
        refine ⟨htold, ?_⟩
        obtain hwriting | hfree := hturn
        · exact .inl ⟨v, hv, hwriting, rfl, rfl⟩
        · exact .inr ⟨rfl, hfree⟩
      | _ => cases hchange
  · rw [h.arriving visit (mem_entering hmem)] at hwrites
    cases hwrites

/-- **Every event leaves one writer at most for each connection.** -/
theorem Exclusive.step {s : Server σ} (h : s.Exclusive) (event : Event σ) :
    (s.step event).1.Exclusive where
  arriving visit hmem := by
    rw [arriving_step, List.mem_append] at hmem
    obtain hmem | hmem := hmem
    · exact h.arriving visit (remaining_subset _ _ hmem)
    · exact not_writing_of_mem_visiting hmem
  ready visit hmem hwrites := (writer_step h hmem hwrites).1
  single v hv w hw hvwrites hwwrites hsession := by
    obtain ⟨-, ⟨v', hv', hvwrites', hvnumber, hvsession⟩ | ⟨hvbegins, hvfree⟩⟩ :=
      writer_step h hv hvwrites
    all_goals obtain ⟨-, ⟨w', hw', hwwrites', hwnumber, hwsession⟩ | ⟨hwbegins, hwfree⟩⟩ :=
      writer_step h hw hwwrites
    · rw [← hvnumber, ← hwnumber]
      refine h.single v' (remaining_subset _ _ hv') w' (remaining_subset _ _ hw') hvwrites'
        hwwrites' ?_
      rw [hvsession, hwsession, hsession]
    · have hbusy : s.isWriting w.session = true :=
        isWriting_iff.2 ⟨v', remaining_subset _ _ hv', hvsession.trans hsession, hvwrites'⟩
      rw [hwfree] at hbusy
      cases hbusy
    · have hbusy : s.isWriting v.session = true :=
        isWriting_iff.2 ⟨w', remaining_subset _ _ hw', hwsession.trans hsession.symm, hwwrites'⟩
      rw [hvfree] at hbusy
      cases hbusy
    · rw [hvbegins] at hwbegins
      exact Event.write.inj hwbegins

theorem Exclusive.run {s : Server σ} (h : s.Exclusive) (events : List (Event σ)) :
    (s.run events).1.Exclusive := by
  induction events generalizing s with
  | nil => exact h
  | cons event rest ih => exact ih (h.step event)

omit [Sink σ] in
/-- One who writes may go on. -/
theorem Exclusive.exists_forwarding? {s : Server σ} (h : s.Exclusive) {visit : Visit}
    (hmem : visit ∈ s.forwarding) (hwrites : visit.writing = true) :
    ∃ found, s.forwarding? visit.number = some found := by
  refine Option.isSome_iff_exists.1 (List.find?_isSome.2 ⟨visit, hmem, ?_⟩)
  simp [hasTurn, hwrites, h.ready visit hmem hwrites]

/-- An event after which a request does not write any more: its payload is passed on, or its
requester goes away. -/
inductive Frees (number : Nat) : Event σ → Prop where
  | passedOn : Frees number (.forward number)
  | left : Frees number (.leave number)
  | leftMeanwhile : Frees number (.abandon number)

/-- **A connection is free again** once the request that writes on it has passed its payload on, or
its requester went away. -/
theorem Exclusive.freed {s : Server σ} (h : s.Exclusive) {visit : Visit}
    (hmem : visit ∈ s.forwarding) (hwrites : visit.writing = true) {event : Event σ}
    (hfrees : Frees visit.number event) :
    (s.step event).1.isWriting visit.session = false := by
  have hgone : s.finishing? event = some visit.number := by
    obtain ⟨found, hfound⟩ := h.exists_forwarding? hmem hwrites
    cases hfrees <;> simp [finishing?, departing?, hfound]
  rw [← Bool.not_eq_true, isWriting_iff]
  rintro ⟨other, hother, hsession, hwriting⟩
  obtain ⟨-, ⟨v, hv, hvwrites, -, hvsession⟩ | ⟨rfl, -⟩⟩ := writer_step h hother hwriting
  · -- the only one who could write is not there any more
    have hsame := h.single v (remaining_subset _ _ hv) visit hmem hvwrites hwrites
      (hvsession.trans hsession)
    rw [hgone] at hv
    simp [remaining, without, hsame] at hv
  · cases hfrees

/-- A connection is not shut down while somebody writes on it. -/
theorem step_shutDown_of_isWriting {s : Server σ} {k : Nat} (h : s.isWriting k = true) :
    s.step (.shutDown k) = (s, []) := by
  rw [Server.step, if_pos h]

end Server
end Tunnel
end PollTunnel
