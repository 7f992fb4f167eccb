import PollTunnel.Payload.Source

/-!
# What reads bring from a source

A read takes one chunk, which is all of a piece or as much of it as the buffer holds, or else one
failure, one pause or one end of the stream.  What is left of a piece is in front of the source
again, so the state of a row of reads is a source (`brings_of_ne_nil`).

`Source.brings` says what all the reads together bring, without any state: what each event brings
(`Event.brings`), one event after the other.  `readMany_brings` is that reads bring just this, and
from then on the end of the stream.  No byte is lost or read twice on the way (`bytes_readMany`).
-/

set_option autoImplicit false

namespace PollTunnel
namespace Source

/-- The bytes that a source has in store. -/
def bytes (source : Source) : Bytes :=
  source.flatMap fun
    | .data bytes => bytes
    | _ => []

/-- The chunks that reads bring. -/
def pieces (outcomes : List (Except Payload.Error Outcome)) : List Bytes :=
  outcomes.filterMap fun
    | .ok (.data bytes) => some bytes
    | _ => none

theorem pieces_append (a b : List (Except Payload.Error Outcome)) :
    pieces (a ++ b) = pieces a ++ pieces b :=
  List.filterMap_append

/-- **A read moves bytes and loses none**: it takes its chunk from the front of what the source has
in store. -/
theorem bytes_read (source : Source) :
    (pieces [source.read.1]).flatten ++ source.read.2.bytes = source.bytes := by
  match source with
  | [] | .silence :: _ => rfl
  | .failure kind :: rest =>
    rw [read]
    split <;> rfl
  | .data bytes :: rest =>
    rw [read]
    split
    · rename_i hnil
      rw [hnil]
      rfl
    · have hrest : Source.bytes (if bytes.drop bufferSize = [] then rest
          else .data (bytes.drop bufferSize) :: rest) =
            bytes.drop bufferSize ++ Source.bytes rest := by
        split
        · rename_i hnil
          rw [hnil, List.nil_append]
        · rfl
      have htake : (pieces [.ok (.data (bytes.take bufferSize))]).flatten = bytes.take bufferSize :=
        List.append_nil _
      dsimp only
      rw [hrest, htake, ← List.append_assoc, List.take_append_drop]
      rfl

/-- No chunk is empty: a read of nothing is the end of the stream. -/
theorem ne_nil_of_mem_pieces_read {source : Source} {bytes : Bytes}
    (h : bytes ∈ pieces [source.read.1]) : bytes ≠ [] := by
  match source with
  | [] | .silence :: _ => exact absurd h List.not_mem_nil
  | .failure kind :: rest =>
    rw [read] at h
    split at h <;> exact absurd h List.not_mem_nil
  | .data whole :: rest =>
    rw [read] at h
    split at h
    · exact absurd h List.not_mem_nil
    · rename_i hne
      rw [List.mem_singleton.1 h, Ne, List.take_eq_nil_iff]
      rintro (hzero | hnil)
      · exact absurd hzero (by decide)
      · exact hne hnil

theorem pieces_readMany_succ (n : Nat) (source : Source) :
    pieces (source.readMany (n + 1)).1 =
      pieces [source.read.1] ++ pieces (source.read.2.readMany n).1 :=
  pieces_append [source.read.1] _

/-- Several reads in a row move bytes and lose none. -/
theorem bytes_readMany (n : Nat) (source : Source) :
    (pieces (source.readMany n).1).flatten ++ (source.readMany n).2.bytes = source.bytes := by
  induction n generalizing source with
  | zero => rfl
  | succ n ih =>
    rw [pieces_readMany_succ, List.flatten_append, List.append_assoc, ← source.bytes_read,
      ← ih source.read.2]
    rfl

theorem ne_nil_of_mem_pieces {n : Nat} {source : Source} {bytes : Bytes}
    (h : bytes ∈ pieces (source.readMany n).1) : bytes ≠ [] := by
  induction n generalizing source with
  | zero => exact absurd h List.not_mem_nil
  | succ n ih =>
    rw [pieces_readMany_succ] at h
    exact (List.mem_append.1 h).elim ne_nil_of_mem_pieces_read ih

/-! ## What there is to read -/

/-- Bytes in the chunks in which reads take them: full buffers, and what is left. -/
def chunks (bytes : Bytes) : List Bytes :=
  if bytes = [] then [] else bytes.take bufferSize :: chunks (bytes.drop bufferSize)
termination_by bytes.length
decreasing_by
  rename_i hne
  have hpos := List.length_pos_iff.2 hne
  rw [List.length_drop, bufferSize]
  omega

@[simp] theorem chunks_nil : chunks [] = [] := by rw [chunks, if_pos rfl]

theorem chunks_of_ne_nil {bytes : Bytes} (h : bytes ≠ []) :
    chunks bytes = bytes.take bufferSize :: chunks (bytes.drop bufferSize) := by
  rw [chunks, if_neg h]

/-- A chunk has between one byte and a full buffer. -/
theorem length_of_mem_chunks {bytes chunk : Bytes} (h : chunk ∈ chunks bytes) :
    1 ≤ chunk.length ∧ chunk.length ≤ bufferSize := by
  induction bytes using chunks.induct with
  | case1 =>
    rw [chunks_nil] at h
    exact absurd h List.not_mem_nil
  | case2 bytes hne ih =>
    rw [chunks_of_ne_nil hne] at h
    rcases List.mem_cons.1 h with rfl | h
    · have hpos := List.length_pos_iff.2 hne
      rw [List.length_take, bufferSize]
      omega
    · exact ih h

/-- What an event brings to one read after another. -/
def Event.brings : Event → List (Except Payload.Error Outcome)
  | .data bytes =>
    if bytes = [] then [.error .targetClosed] else (chunks bytes).map fun chunk => .ok (.data chunk)
  | .failure .timedOut | .failure .wouldBlock | .silence => [.ok .timedOut]
  | .failure kind => [.error (.io (.plain kind))]

/-- What a source brings to one read after another, until nothing is left. -/
def brings (source : Source) : List (Except Payload.Error Outcome) := source.flatMap Event.brings

/-- **A read takes the first of what there is**, and leaves the rest. -/
theorem brings_of_ne_nil {source : Source} (h : source ≠ []) :
    source.brings = source.read.1 :: source.read.2.brings := by
  match source with
  | [] => exact absurd rfl h
  | .silence :: _ => rfl
  | .failure kind :: rest => cases kind <;> rfl
  | .data bytes :: rest =>
    rw [brings, List.flatMap_cons, Event.brings, read]
    split
    · rfl
    · rename_i hne
      rw [chunks_of_ne_nil hne]
      dsimp only
      split
      · rename_i hnone
        rw [hnone, chunks_nil]
        rfl
      · rename_i hleft
        rw [brings, List.flatMap_cons, Event.brings, if_neg hleft]
        rfl

/-- Something is left as long as it brings anything. -/
theorem brings_eq_nil_iff {source : Source} : source.brings = [] ↔ source = [] := by
  refine ⟨fun h => Classical.byContradiction fun hne => ?_, fun h => h ▸ rfl⟩
  rw [brings_of_ne_nil hne] at h
  cases h

/-! ## Several reads in a row -/

/-- A source that has ended goes on to say so. -/
theorem readMany_nil (n : Nat) :
    readMany n [] = (List.replicate n (Except.error .targetClosed), []) := by
  induction n with
  | zero => rfl
  | succ n ih =>
    simp only [readMany, read, ih]
    rfl

/-- **Reads bring what the source has in store**, in order, and then the end of the stream. -/
theorem readMany_brings (n : Nat) (source : Source) :
    (source.readMany n).1 = source.brings.take n ++
        List.replicate (n - source.brings.length) (.error .targetClosed) ∧
      (source.readMany n).2.brings = source.brings.drop n := by
  induction n generalizing source with
  | zero => exact ⟨by simp [readMany], rfl⟩
  | succ n ih =>
    by_cases hne : source = []
    · subst hne
      rw [readMany_nil]
      exact ⟨rfl, rfl⟩
    · obtain ⟨houtcomes, hleft⟩ := ih source.read.2
      rw [brings_of_ne_nil hne, List.take_succ_cons, List.length_cons, Nat.add_sub_add_right]
      exact ⟨congrArg (source.read.1 :: ·) houtcomes, hleft⟩

/-- The last of several reads takes from what the others have left. -/
theorem left_readMany_succ (n : Nat) (source : Source) :
    (source.readMany (n + 1)).2 = (source.readMany n).2.read.2 := by
  induction n generalizing source with
  | zero => rfl
  | succ n ih => exact ih source.read.2

/-- Every chunk that a source brings has between one byte and a full buffer. -/
theorem length_of_mem_brings {source : Source} {bytes : Bytes}
    (h : .ok (.data bytes) ∈ source.brings) : 1 ≤ bytes.length ∧ bytes.length ≤ bufferSize := by
  obtain ⟨event, -, hmem⟩ := List.mem_flatMap.1 h
  cases event with
  | data piece =>
    rw [Event.brings] at hmem
    split at hmem
    · cases List.mem_singleton.1 hmem
    · obtain ⟨chunk, hchunk, heq⟩ := List.mem_map.1 hmem
      cases heq
      exact length_of_mem_chunks hchunk
  | failure kind => cases kind <;> cases List.mem_singleton.1 hmem
  | silence => cases List.mem_singleton.1 hmem

/-- **What a row of reads brings.** -/
structure ReadsOf (source : Source) (n : Nat) : Prop where
  /-- What the events stand for, one after the other, and from then on the end of the stream. -/
  inOrder : (source.readMany n).1 = source.brings.take n ++
    List.replicate (n - source.brings.length) (.error .targetClosed)
  /-- A chunk has between one byte and a full buffer. -/
  sized : ∀ bytes, .ok (.data bytes) ∈ (source.readMany n).1 →
    1 ≤ bytes.length ∧ bytes.length ≤ bufferSize
  /-- The chunks together are an initial part of what the source has in store. -/
  initial : (pieces (source.readMany n).1).flatten <+: source.bytes
  /-- What they lack is still there. -/
  rest : (pieces (source.readMany n).1).flatten ++ (source.readMany n).2.bytes = source.bytes
  /-- A read that brings no chunk takes no byte. -/
  idle : pieces [(source.readMany n).2.read.1] = [] →
    (source.readMany (n + 1)).2.bytes = (source.readMany n).2.bytes
  /-- Nothing is left after so many reads, and not before. -/
  exhausted : (source.readMany n).2 = [] ↔ source.brings.length ≤ n
  /-- Then the chunks are all that the source had in store. -/
  whole : (source.readMany n).2 = [] → (pieces (source.readMany n).1).flatten = source.bytes

/-- **Bounded reads neither lose, repeat nor reorder anything**, whatever the source has in store
and however often it is read. -/
theorem readMany_readsOf (source : Source) (n : Nat) : ReadsOf source n := by
  obtain ⟨houtcomes, hleft⟩ := readMany_brings n source
  have hrest := bytes_readMany n source
  refine
    { inOrder := houtcomes
      sized := fun bytes hmem => ?_
      initial := ⟨_, hrest⟩
      rest := hrest
      idle := fun hnone => ?_
      exhausted := ?_
      whole := fun hnone => ?_ }
  · rw [houtcomes, List.mem_append] at hmem
    rcases hmem with hmem | hmem
    · exact length_of_mem_brings (List.mem_of_mem_take hmem)
    · cases List.eq_of_mem_replicate hmem
  · rw [left_readMany_succ, ← bytes_read (source.readMany n).2, hnone]
    rfl
  · rw [← brings_eq_nil_iff, hleft, List.drop_eq_nil_iff]
  · rwa [hnone, show Source.bytes [] = [] from rfl, List.append_nil] at hrest

/-- Failures of either kind that mean no more than that nothing has come, one that means more, and
between them the data. -/
theorem readMany_readsOf_failing :
    let source : Source := [.failure .timedOut, .data [104, 105], .failure .connectionReset,
      .failure .wouldBlock, .data [], .silence, .data [33]]
    ReadsOf source 8 ∧
      (source.readMany 8).1 = [.ok .timedOut, .ok (.data [104, 105]),
        .error (.io (.plain .connectionReset)), .ok .timedOut, .error .targetClosed,
        .ok .timedOut, .ok (.data [33]), .error .targetClosed] ∧
      (source.readMany 8).2 = [] :=
  ⟨readMany_readsOf _ 8, rfl, rfl⟩

end Source
end PollTunnel
