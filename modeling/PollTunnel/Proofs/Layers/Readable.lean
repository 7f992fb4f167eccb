import Mathlib.Data.List.Basic
import PollTunnel.Config.Location

/-!
# Octets that are read as a text

Names of files are octets, and an overlay's name is put together from what can be read of them.
This file is about reading in general: sequences of one to four octets stand for characters, and
`Utf8.next` reads off exactly what they stand for (`encode_next`, `next_encode`).

* `decode?_ofString`, `ofString_of_decode?` — reading strictly and writing undo each other.
* `length_le_readable` — reading leniently never makes octets fewer, since a broken sequence has
  three at most, and so has U+FFFD.
* `readable_of_isText`, `isText_of_append` — octets that are a text stay as they are, and so do the
  two sides of a dot.
-/

set_option autoImplicit false

namespace PollTunnel
namespace Utf8

variable {lead b c d : UInt8} {rest tail : Bytes}

/-! ## Ranges of octets -/

theorem isTail_iff : isTail b = true ↔ 0x80 ≤ b.toNat ∧ b.toNat ≤ 0xBF := by
  simp [isTail, UInt8.le_iff_toNat_le]

theorem isSecond_iff : isSecond lead b = true ↔
    (lead.toNat = 0xE0 → 0xA0 ≤ b.toNat) ∧ (lead.toNat = 0xED → b.toNat ≤ 0x9F) ∧
      (lead.toNat = 0xF0 → 0x90 ≤ b.toNat) ∧ (lead.toNat = 0xF4 → b.toNat ≤ 0x8F) ∧
      0x80 ≤ b.toNat ∧ b.toNat ≤ 0xBF := by
  unfold isSecond
  simp only [← UInt8.toNat_inj]
  repeat' split
  all_goals
    simp [isTail, UInt8.le_iff_toNat_le] at *
    omega

/-! ## The octets of a character -/

/-- The octets of a scalar value, as numbers. -/
def units (n : Nat) : List Nat :=
  if n < 0x80 then [n]
  else if n < 0x800 then [0xC0 + n / 64, 0x80 + n % 64]
  else if n < 0x10000 then [0xE0 + n / 4096, 0x80 + n / 64 % 64, 0x80 + n % 64]
  else [0xF0 + n / 262144, 0x80 + n / 4096 % 64, 0x80 + n / 64 % 64, 0x80 + n % 64]

theorem map_toNat_encode (c : Char) :
    (String.utf8EncodeChar c).map UInt8.toNat = units c.toNat := by
  have hlimit : c.toNat < 0x110000 := by
    obtain h | h := c.valid
    · exact Nat.lt_trans h (by decide)
    · exact h.2
  have hval : c.val.toNat = c.toNat := rfl
  simp only [String.utf8EncodeChar, hval, units]
  repeat' split
  all_goals first | omega | skip
  all_goals simp
  all_goals omega

/-- Octets that make up a scalar value are those of its character. -/
theorem encode_eq {n : Nat} {front : Bytes} (h : n.isValidChar)
    (hfront : front.map UInt8.toNat = units n) : String.utf8EncodeChar (Char.ofNat n) = front := by
  have hn : (Char.ofNat n).toNat = n := by
    rw [Char.ofNat, dif_pos h]
    rfl
  refine List.map_injective_iff.2 (fun _ _ => UInt8.toNat_inj.1) ?_
  rw [map_toNat_encode, hn, hfront]

/-- An octet of ASCII stands for its own character, and is no part of another's. -/
theorem toNat_eq_of_mem_encode {a : UInt8} {value : Char} (ha : a.toNat < 0x80)
    (h : a ∈ String.utf8EncodeChar value) : value.toNat = a.toNat := by
  have hmem : a.toNat ∈ units value.toNat := by
    rw [← map_toNat_encode]
    exact List.mem_map_of_mem h
  unfold units at hmem
  repeat' split at hmem
  all_goals simp only [List.mem_cons, List.not_mem_nil, or_false] at hmem
  all_goals omega

/-! ## Sequences of one to four octets -/

theorem encode_one (hlead : lead.toNat < 0x80) :
    String.utf8EncodeChar (Char.ofNat lead.toNat) = [lead] := by
  refine encode_eq (Or.inl (by omega)) ?_
  rw [units, if_pos hlead]
  rfl

theorem encode_two (hlead : 0xC2 ≤ lead.toNat ∧ lead.toNat < 0xE0) (hb : isTail b = true) :
    String.utf8EncodeChar (Char.ofNat (lead.toNat % 32 * 64 + tailBits b)) = [lead, b] := by
  rw [isTail_iff] at hb
  unfold tailBits
  refine encode_eq (Or.inl (by omega)) ?_
  rw [units, if_neg (by omega), if_pos (by omega)]
  simp only [List.map_cons, List.map_nil, List.cons.injEq, and_true]
  omega

theorem encode_three (hlead : 0xE0 ≤ lead.toNat ∧ lead.toNat < 0xF0)
    (hb : isSecond lead b = true) (hc : isTail c = true) :
    String.utf8EncodeChar
      (Char.ofNat ((lead.toNat % 16 * 64 + tailBits b) * 64 + tailBits c)) = [lead, b, c] := by
  rw [isSecond_iff] at hb
  rw [isTail_iff] at hc
  unfold tailBits
  refine encode_eq (by unfold Nat.isValidChar; omega) ?_
  rw [units, if_neg (by omega), if_neg (by omega), if_pos (by omega)]
  simp only [List.map_cons, List.map_nil, List.cons.injEq, and_true]
  omega

theorem encode_four (hlead : 0xF0 ≤ lead.toNat ∧ lead.toNat < 0xF5)
    (hb : isSecond lead b = true) (hc : isTail c = true) (hd : isTail d = true) :
    String.utf8EncodeChar (Char.ofNat
      (((lead.toNat % 8 * 64 + tailBits b) * 64 + tailBits c) * 64 + tailBits d)) =
        [lead, b, c, d] := by
  rw [isSecond_iff] at hb
  rw [isTail_iff] at hc hd
  unfold tailBits
  refine encode_eq (by unfold Nat.isValidChar; omega) ?_
  rw [units, if_neg (by omega), if_neg (by omega), if_neg (by omega)]
  simp only [List.map_cons, List.map_nil, List.cons.injEq, and_true]
  omega

/-! ## The front of octets -/

/-- **What is read off the front is what stands there.** -/
theorem encode_next {value : Char} (h : next lead rest = .scalar value tail) :
    lead :: rest = String.utf8EncodeChar value ++ tail := by
  unfold next at h
  simp only [UInt8.lt_iff_toNat_lt] at h
  split at h
  · rename_i hlead
    cases h
    rw [encode_one hlead]
    rfl
  split at h
  · cases h
  split at h
  · rename_i hlow hlead
    repeat' split at h
    all_goals cases h
    rename_i hb
    rw [encode_two ⟨Nat.not_lt.1 hlow, hlead⟩ hb]
    rfl
  split at h
  · rename_i hlow hlead
    repeat' split at h
    all_goals cases h
    rename_i hb _ _ hc
    rw [encode_three ⟨Nat.not_lt.1 hlow, hlead⟩ hb hc]
    rfl
  split at h
  · rename_i hlow hlead
    repeat' split at h
    all_goals cases h
    rename_i hb _ _ hc _ _ hd
    rw [encode_four ⟨Nat.not_lt.1 hlow, hlead⟩ hb hc hd]
    rfl
  · cases h

/-- **What stands for a character is read as that character**, whatever follows. -/
theorem next_encode (value : Char) (tail : Bytes) :
    ∃ lead rest, String.utf8EncodeChar value ++ tail = lead :: rest ∧
      next lead rest = .scalar value tail := by
  have hoctets := map_toNat_encode value
  have hvalid : value.toNat < 0xD800 ∨ 0xDFFF < value.toNat ∧ value.toNat < 0x110000 := value.valid
  have hvalue : ∀ n, n = value.toNat → Char.ofNat n = value := fun n h => h ▸ Char.ofNat_toNat value
  unfold units at hoctets
  split at hoctets
  · obtain ⟨a, hfront, ha⟩ := List.map_eq_singleton_iff.1 hoctets
    refine ⟨a, tail, by rw [hfront]; rfl, ?_⟩
    simp only [next.eq_def, UInt8.lt_iff_toNat_lt, UInt8.reduceToNat]
    rw [if_pos (show a.toNat < 0x80 by omega), hvalue _ ha]
  split at hoctets
  · obtain ⟨a, _, hfront, ha, hmap⟩ := List.map_eq_cons_iff.1 hoctets
    obtain ⟨b, rfl, hb⟩ := List.map_eq_singleton_iff.1 hmap
    refine ⟨a, b :: tail, by rw [hfront]; rfl, ?_⟩
    have htail : isTail b = true := isTail_iff.2 (by omega)
    simp only [next.eq_def, UInt8.lt_iff_toNat_lt, UInt8.reduceToNat, htail, if_true]
    rw [if_neg (show ¬ a.toNat < 0x80 by omega), if_neg (show ¬ a.toNat < 0xC2 by omega),
      if_pos (show a.toNat < 0xE0 by omega), hvalue]
    unfold tailBits
    omega
  split at hoctets
  · obtain ⟨a, _, hfront, ha, hmap⟩ := List.map_eq_cons_iff.1 hoctets
    obtain ⟨b, _, rfl, hb, hmap⟩ := List.map_eq_cons_iff.1 hmap
    obtain ⟨c, rfl, hc⟩ := List.map_eq_singleton_iff.1 hmap
    refine ⟨a, b :: c :: tail, by rw [hfront]; rfl, ?_⟩
    have hsecond : isSecond a b = true := isSecond_iff.2 (by omega)
    have htail : isTail c = true := isTail_iff.2 (by omega)
    simp only [next.eq_def, UInt8.lt_iff_toNat_lt, UInt8.reduceToNat, hsecond, htail, if_true]
    rw [if_neg (show ¬ a.toNat < 0x80 by omega), if_neg (show ¬ a.toNat < 0xC2 by omega),
      if_neg (show ¬ a.toNat < 0xE0 by omega), if_pos (show a.toNat < 0xF0 by omega), hvalue]
    unfold tailBits
    omega
  · obtain ⟨a, _, hfront, ha, hmap⟩ := List.map_eq_cons_iff.1 hoctets
    obtain ⟨b, _, rfl, hb, hmap⟩ := List.map_eq_cons_iff.1 hmap
    obtain ⟨c, _, rfl, hc, hmap⟩ := List.map_eq_cons_iff.1 hmap
    obtain ⟨d, rfl, hd⟩ := List.map_eq_singleton_iff.1 hmap
    refine ⟨a, b :: c :: d :: tail, by rw [hfront]; rfl, ?_⟩
    have hsecond : isSecond a b = true := isSecond_iff.2 (by omega)
    have hthird : isTail c = true := isTail_iff.2 (by omega)
    have hfourth : isTail d = true := isTail_iff.2 (by omega)
    simp only [next.eq_def, UInt8.lt_iff_toNat_lt, UInt8.reduceToNat, hsecond, hthird, hfourth,
      if_true]
    rw [if_neg (show ¬ a.toNat < 0x80 by omega), if_neg (show ¬ a.toNat < 0xC2 by omega),
      if_neg (show ¬ a.toNat < 0xE0 by omega), if_neg (show ¬ a.toNat < 0xF0 by omega),
      if_pos (show a.toNat < 0xF5 by omega), hvalue]
    unfold tailBits
    omega

/-- A broken sequence that is skipped has three octets at most. -/
theorem length_le_of_next (h : next lead rest = .broken tail) :
    (lead :: rest).length ≤ tail.length + 3 := by
  unfold next at h
  repeat' split at h
  all_goals cases h
  all_goals simp only [List.length_cons]
  all_goals omega

/-- What follows a broken sequence stood behind it. -/
theorem mem_of_next_broken {a : UInt8} (h : next lead rest = .broken tail) (ha : a ∈ tail) :
    a ∈ lead :: rest := by
  unfold next at h
  repeat' split at h
  all_goals cases h
  all_goals simp [ha]

/-- A front with more octets behind what follows it. -/
def Front.append (front : Front) (more : Bytes) : Front :=
  match front with
  | .scalar value rest => .scalar value (rest ++ more)
  | .broken rest => .broken (rest ++ more)

/-- An octet of ASCII is no part of a sequence: what is before it is read as if it ended there. -/
theorem next_append {a : UInt8} (ha : a.toNat < 0x80) (lead : UInt8) (rest more : Bytes) :
    next lead (rest ++ a :: more) = (next lead rest).append (a :: more) := by
  have htail : isTail a = false := by
    rw [← Bool.not_eq_true, isTail_iff]
    omega
  have hsecond : isSecond lead a = false := by
    rw [← Bool.not_eq_true, isSecond_iff]
    omega
  unfold next
  obtain _ | ⟨b, _ | ⟨c, _ | ⟨d, rest⟩⟩⟩ := rest <;>
    simp only [List.nil_append, List.cons_append, htail, hsecond, Bool.false_eq_true, if_false] <;>
    repeat' split
  all_goals rfl

/-! ## The pieces of octets -/

theorem pieces_cons (lead : UInt8) (rest : Bytes) :
    pieces (lead :: rest) = (next lead rest).value? :: pieces (next lead rest).rest := by
  rw [pieces]

theorem pieces_encode (value : Char) (tail : Bytes) :
    pieces (String.utf8EncodeChar value ++ tail) = some value :: pieces tail := by
  obtain ⟨lead, rest, hfront, hnext⟩ := next_encode value tail
  rw [hfront, pieces_cons, hnext]
  rfl

theorem pieces_ofString (s : String) : pieces (Bytes.ofString s) = s.toList.map some := by
  rw [Bytes.ofString]
  induction s.toList with
  | nil => simp [pieces]
  | cons c cs ih => rw [List.flatMap_cons, pieces_encode, ih, List.map_cons]

/-- Octets without a broken sequence are those of the characters that are read. -/
theorem flatMap_encode_of_pieces {values : List Char} (bytes : Bytes)
    (h : pieces bytes = values.map some) : values.flatMap String.utf8EncodeChar = bytes := by
  fun_induction pieces bytes generalizing values with
  | case1 =>
    obtain rfl : values = [] := by simpa using h.symm
    rfl
  | case2 lead rest ih =>
    cases values with
    | nil => cases h
    | cons value values =>
      obtain ⟨hvalue, hpieces⟩ := List.cons.inj h
      cases hnext : next lead rest with
      | broken tail => rw [hnext] at hvalue; cases hvalue
      | scalar read tail =>
        rw [hnext] at hvalue hpieces ih
        obtain rfl : read = value := Option.some.inj hvalue
        rw [List.flatMap_cons, ih hpieces, encode_next hnext]
        rfl

theorem mapM_id_eq_some {values : List Char} {pieces : List (Option Char)} :
    pieces.mapM id = some values ↔ pieces = values.map some := by
  induction pieces generalizing values with
  | nil => cases values <;> simp
  | cons piece pieces ih =>
    cases values with
    | nil => cases piece <;> simp [List.mapM_cons, Option.bind_eq_some_iff]
    | cons value values => simp [List.mapM_cons, ih, and_comm, Option.bind_eq_some_iff]

theorem decode?_eq_some {bytes : Bytes} {s : String} :
    decode? bytes = some s ↔ pieces bytes = s.toList.map some := by
  rw [decode?, Option.map_eq_some_iff]
  constructor
  · rintro ⟨values, hvalues, rfl⟩
    rwa [String.toList_ofList, ← mapM_id_eq_some]
  · exact fun h => ⟨s.toList, mapM_id_eq_some.2 h, String.ofList_toList⟩

/-- **Writing a text undoes reading it strictly.** -/
theorem ofString_of_decode? {bytes : Bytes} {s : String} (h : decode? bytes = some s) :
    Bytes.ofString s = bytes :=
  flatMap_encode_of_pieces bytes (decode?_eq_some.1 h)

/-- **Reading a text strictly undoes writing it.** -/
theorem decode?_ofString (s : String) : decode? (Bytes.ofString s) = some s :=
  decode?_eq_some.2 (pieces_ofString s)

theorem decodeLossy_ofString (s : String) : decodeLossy (Bytes.ofString s) = s := by
  rw [decodeLossy, pieces_ofString, List.map_map]
  simp [Function.comp_def]

theorem pieces_append {a : UInt8} (ha : a.toNat < 0x80) (before after : Bytes) :
    pieces (before ++ a :: after) = pieces before ++ pieces (a :: after) := by
  fun_induction pieces before with
  | case1 => rfl
  | case2 lead rest ih =>
    rw [List.cons_append, pieces_cons, next_append ha]
    cases hnext : next lead rest with
    | scalar value tail =>
      rw [hnext] at ih
      exact congrArg _ ih
    | broken tail =>
      rw [hnext] at ih
      exact congrArg _ ih

end Utf8

/-- An octet of ASCII in the octets of a text is one of its characters. -/
theorem Bytes.mem_of_mem_ofString {a : UInt8} (ha : a.toNat < 0x80) {s : String}
    (h : a ∈ Bytes.ofString s) : Char.ofNat a.toNat ∈ s.toList := by
  obtain ⟨value, hvalue, hmem⟩ := List.mem_flatMap.1 h
  rwa [← Utf8.toNat_eq_of_mem_encode ha hmem, Char.ofNat_toNat]

/-! ## Names -/

namespace Location

open Utf8

/-- Octets that are the UTF-8 form of a text. -/
def IsText (octets : Bytes) : Prop := ∃ s, octets = Bytes.ofString s

theorem isText_iff {octets : Bytes} : IsText octets ↔ ∀ piece ∈ pieces octets, piece ≠ none := by
  constructor
  · rintro ⟨s, rfl⟩ piece hpiece
    rw [pieces_ofString] at hpiece
    obtain ⟨value, -, rfl⟩ := List.mem_map.1 hpiece
    exact Option.some_ne_none value
  · intro h
    have hpieces : pieces octets = ((pieces octets).map fun piece => piece.getD ' ').map some := by
      rw [List.map_map]
      refine (List.map_id _).symm.trans (List.map_congr_left fun piece hpiece => ?_)
      obtain ⟨value, rfl⟩ := Option.ne_none_iff_exists'.1 (h piece hpiece)
      rfl
    refine ⟨String.ofList ((pieces octets).map fun piece => piece.getD ' '), ?_⟩
    rw [Bytes.ofString, String.toList_ofList, flatMap_encode_of_pieces octets hpieces]

/-- What is a text stays as it is. -/
theorem readable_of_isText {octets : Bytes} (h : IsText octets) : readable octets = octets := by
  obtain ⟨s, rfl⟩ := h
  rw [readable, decodeLossy_ofString]

/-- The two sides of an octet of ASCII in a text are texts. -/
theorem isText_of_append {a : UInt8} (ha : a.toNat < 0x80) {before after : Bytes}
    (h : IsText (before ++ a :: after)) : IsText before ∧ IsText after := by
  have hnext : next a after = .scalar (Char.ofNat a.toNat) after := by
    rw [next.eq_def, if_pos (UInt8.lt_iff_toNat_lt.2 ha)]
  rw [isText_iff, pieces_append ha, pieces_cons, hnext] at h
  refine ⟨isText_iff.2 fun piece hpiece => h piece (List.mem_append_left _ hpiece),
    isText_iff.2 fun piece hpiece => h piece (List.mem_append_right _ ?_)⟩
  exact List.mem_cons_of_mem _ hpiece

/-- The octets of what is read of a piece. -/
theorem readable_eq (octets : Bytes) : readable octets =
    (pieces octets).flatMap fun piece =>
      String.utf8EncodeChar (piece.getD (Char.ofNat 0xFFFD)) := by
  rw [readable, decodeLossy, Bytes.ofString, String.toList_ofList, List.flatMap_map]

/-- The octets of U+FFFD. -/
theorem encode_replacement :
    String.utf8EncodeChar (Char.ofNat 0xFFFD) = [0xEF, 0xBF, 0xBD] := by
  decide

/-- **Octets do not become fewer by being read.** -/
theorem length_le_readable (octets : Bytes) : octets.length ≤ (readable octets).length := by
  rw [readable_eq]
  fun_induction pieces octets with
  | case1 => exact Nat.le_refl 0
  | case2 lead rest ih =>
    rw [List.flatMap_cons, List.length_append]
    cases hnext : next lead rest with
    | scalar value tail =>
      rw [hnext] at ih
      rw [encode_next hnext, List.length_append]
      exact Nat.add_le_add_left ih _
    | broken tail =>
      rw [hnext] at ih
      have hshort := length_le_of_next hnext
      simp only [Front.value?, Front.rest, Option.getD_none, encode_replacement,
        List.length_cons, List.length_nil] at ih hshort ⊢
      omega

/-- Reading brings in no octet of ASCII. -/
theorem mem_of_mem_readable {a : UInt8} (ha : a.toNat < 0x80) {octets : Bytes}
    (h : a ∈ readable octets) : a ∈ octets := by
  rw [readable_eq] at h
  fun_induction pieces octets with
  | case1 => exact h
  | case2 lead rest ih =>
    rw [List.flatMap_cons, List.mem_append] at h
    cases hnext : next lead rest with
    | scalar value tail =>
      rw [hnext] at h ih
      rw [encode_next hnext]
      exact List.mem_append.2 (h.imp id ih)
    | broken tail =>
      rw [hnext] at h ih
      have hreplacement : a ∉ String.utf8EncodeChar (Char.ofNat 0xFFFD) := by
        rw [encode_replacement]
        rintro hmem
        obtain rfl | rfl | rfl : a = 0xEF ∨ a = 0xBF ∨ a = 0xBD := by simpa using hmem
        all_goals exact absurd ha (by decide)
      exact mem_of_next_broken hnext (ih (h.resolve_left hreplacement))

end Location
end PollTunnel
