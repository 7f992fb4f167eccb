import Mathlib.Algebra.Ring.Int.Defs
import Mathlib.Algebra.Ring.Nat
import PollTunnel.Payload.Framing

/-!
# Which messages carry a payload

`Received.ofMessage` reads a message in three steps: the octets of its first sequence field have to
be plain, what stands between spaces and tabs has to be a numeral of 64 bits, and the number has to
be positive.  `Carries` is the grammar of messages, with one rule for each outcome, in terms of
octets alone; `ofMessage_grammar` is that a message is read as something exactly if a rule says so.

The reader works on characters, so the octets of a field go through `Numeral.character` on the way.
Stripping a field and reading a numeral come to the same before and after (`trimBy_map_character`,
`integer?_map_character`).
-/

set_option autoImplicit false

namespace PollTunnel

/-! ## Numerals in octets -/

namespace Numeral

/-- An octet that may be read as text: the tab, and what is visible in ASCII with the space. -/
def IsPlain (b : UInt8) : Prop := b = 0x09 ∨ 0x20 ≤ b ∧ b ≤ 0x7E
  deriving Decidable

/-- An octet that is stripped from both ends of a field. -/
def IsPadding (b : UInt8) : Prop := b = 0x20 ∨ b = 0x09
  deriving Decidable

/-- What is left of a field without the padding around it. -/
structure Stripped (value core : Bytes) : Prop where
  around : ∃ before after, value = before ++ core ++ after ∧ (∀ b ∈ before, IsPadding b) ∧
    ∀ b ∈ after, IsPadding b
  first : ∀ b ∈ core.head?, ¬ IsPadding b
  last : ∀ b ∈ core.getLast?, ¬ IsPadding b

/-- A non-empty run of decimal digits. -/
def IsDigits (octets : Bytes) : Prop := octets ≠ [] ∧ ∀ b ∈ octets, 0x30 ≤ b ∧ b ≤ 0x39

/-- The number that digits denote, each by its place. -/
def magnitude : Bytes → Nat
  | [] => 0
  | b :: rest => (b.toNat - 0x30) * 10 ^ rest.length + magnitude rest

/-- Octets denote an integer: digits, behind a sign or none. -/
inductive Denotes : Bytes → Int → Prop
  | bare {digits : Bytes} (h : IsDigits digits) : Denotes digits (magnitude digits)
  | plus {digits : Bytes} (h : IsDigits digits) : Denotes (0x2B :: digits) (magnitude digits)
  | minus {digits : Bytes} (h : IsDigits digits) : Denotes (0x2D :: digits) (-magnitude digits)

/-! ### Characters of octets -/

/-- The character of an octet. -/
def character (b : UInt8) : Char := Char.ofNat b.toNat

/-- What holds of the first 256 numbers holds of every octet. -/
theorem forall_octet {P : UInt8 → Prop} (h : ∀ n < 256, P (UInt8.ofNat n)) (b : UInt8) : P b := by
  have hb := h b.toNat b.toNat_lt
  rwa [UInt8.ofNat_toNat] at hb

theorem isPlainOctet_iff : ∀ b, isPlainOctet b = true ↔ IsPlain b :=
  forall_octet (by decide +kernel)

theorem isPadding_character : ∀ b, Payload.isPadding (character b) = true ↔ IsPadding b :=
  forall_octet (by decide +kernel)

theorem isDigit_character : ∀ b, Decimal.isDigit (character b) = true ↔ 0x30 ≤ b ∧ b ≤ 0x39 :=
  forall_octet (by decide +kernel)

theorem digitValue_character : ∀ b, Decimal.digitValue (character b) = b.toNat - 0x30 :=
  forall_octet (by decide +kernel)

theorem character_eq_plus : ∀ b, character b = '+' ↔ b = 0x2B :=
  forall_octet (by decide +kernel)

theorem character_eq_minus : ∀ b, character b = '-' ↔ b = 0x2D :=
  forall_octet (by decide +kernel)

theorem plainText?_of_plain {value : Bytes} (h : ∀ b ∈ value, IsPlain b) :
    plainText? value = some (value.map character) := by
  have hall : value.all isPlainOctet = true :=
    List.all_eq_true.2 fun b hb => (isPlainOctet_iff b).2 (h b hb)
  rw [plainText?, if_pos hall]
  rfl

theorem plainText?_of_not_plain {value : Bytes} (h : ¬ ∀ b ∈ value, IsPlain b) :
    plainText? value = none := by
  have hnot : ¬ value.all isPlainOctet = true := fun hall =>
    h fun b hb => (isPlainOctet_iff b).1 (List.all_eq_true.1 hall b hb)
  rw [plainText?, if_neg hnot]

/-! ### Stripping -/

theorem exists_split_padding (value : Bytes) : ∃ before rest, value = before ++ rest ∧
    (∀ b ∈ before, IsPadding b) ∧ ∀ b ∈ rest.head?, ¬ IsPadding b := by
  induction value with
  | nil => exact ⟨[], [], rfl, nofun, nofun⟩
  | cons b value ih =>
    by_cases hb : IsPadding b
    · obtain ⟨before, rest, rfl, hbefore, hfirst⟩ := ih
      exact ⟨b :: before, rest, rfl, List.forall_mem_cons.2 ⟨hb, hbefore⟩, hfirst⟩
    · refine ⟨[], b :: value, rfl, nofun, ?_⟩
      rintro c hc
      obtain rfl : b = c := by simpa using hc
      exact hb

/-- Every field can be stripped. -/
theorem exists_stripped (value : Bytes) : ∃ core, Stripped value core := by
  obtain ⟨before, rest, rfl, hbefore, hfirst⟩ := exists_split_padding value
  obtain ⟨after, core, hback, hafter, hlast⟩ := exists_split_padding rest.reverse
  have hrest : rest = core.reverse ++ after.reverse := by
    rw [← List.reverse_append, ← hback, List.reverse_reverse]
  refine ⟨core.reverse, ⟨before, after.reverse, ?_, hbefore, ?_⟩, ?_, ?_⟩
  · rw [List.append_assoc, ← hrest]
  · exact fun b hb => hafter b (List.mem_reverse.1 hb)
  · intro b hb
    have hhead : rest.head? = some b := by
      rw [hrest, List.head?_append, Option.mem_def.1 hb]
      rfl
    exact hfirst b hhead
  · rw [List.getLast?_reverse]
    exact hlast

theorem dropWhile_append_of_head {drop : Char → Bool} {before rest : List Char}
    (hbefore : ∀ c ∈ before, drop c = true) (hrest : ∀ c ∈ rest.head?, drop c = false) :
    (before ++ rest).dropWhile drop = rest := by
  rw [List.dropWhile_append_of_pos hbefore]
  cases rest with
  | nil => rfl
  | cons c rest => exact List.dropWhile_cons_of_neg (by simp [hrest c rfl])

/-- What can be dropped on both sides of a text is dropped, and no more. -/
theorem trimBy_append {drop : Char → Bool} {before core after : List Char}
    (hbefore : ∀ c ∈ before, drop c = true) (hafter : ∀ c ∈ after, drop c = true)
    (hfirst : ∀ c ∈ core.head?, drop c = false) (hlast : ∀ c ∈ core.getLast?, drop c = false) :
    Text.trimBy drop (before ++ core ++ after) = core := by
  rw [Text.trimBy]
  cases core with
  | nil =>
    have hall : ∀ c ∈ before ++ after, drop c = true := List.forall_mem_append.2 ⟨hbefore, hafter⟩
    have hnothing : (before ++ after ++ []).dropWhile drop = [] :=
      dropWhile_append_of_head hall nofun
    rw [List.append_nil] at hnothing
    rw [List.append_nil, hnothing]
    rfl
  | cons d core =>
    have hbehind : ∀ c ∈ after.reverse, drop c = true := fun c hc =>
      hafter c (List.mem_reverse.1 hc)
    have hback : ∀ c ∈ (d :: core).reverse.head?, drop c = false := by rwa [List.head?_reverse]
    have hfront : (before ++ (d :: core ++ after)).dropWhile drop = d :: core ++ after :=
      dropWhile_append_of_head hbefore hfirst
    rw [List.append_assoc, hfront, List.reverse_append, dropWhile_append_of_head hbehind hback,
      List.reverse_reverse]

theorem trimBy_map_character {value core : Bytes} (h : Stripped value core) :
    Text.trimBy Payload.isPadding (value.map character) = core.map character := by
  obtain ⟨⟨before, after, rfl, hbefore, hafter⟩, hfirst, hlast⟩ := h
  have hpadding : ∀ octets : Bytes, (∀ b ∈ octets, IsPadding b) →
      ∀ c ∈ octets.map character, Payload.isPadding c = true := by
    intro octets hall c hc
    obtain ⟨b, hb, rfl⟩ := List.mem_map.1 hc
    exact (isPadding_character b).2 (hall b hb)
  have hnot : ∀ b : UInt8, ¬ IsPadding b → Payload.isPadding (character b) = false := fun b hb =>
    Bool.eq_false_iff.2 fun h => hb ((isPadding_character b).1 h)
  rw [List.map_append, List.map_append]
  refine trimBy_append (hpadding before hbefore) (hpadding after hafter) ?_ ?_
  · rintro c hc
    obtain ⟨b, hb, rfl⟩ := by simpa using hc
    exact hnot b (hfirst b hb)
  · rintro c hc
    obtain ⟨b, hb, rfl⟩ := by simpa using hc
    exact hnot b (hlast b hb)

/-! ### Digits -/

theorem value_map_character (digits : Bytes) :
    Decimal.value (digits.map character) = magnitude digits := by
  have hfold : ∀ (digits : Bytes) (acc : Nat), (digits.map character).foldl
      (fun acc c => 10 * acc + Decimal.digitValue c) acc =
        acc * 10 ^ digits.length + magnitude digits := by
    intro digits
    induction digits with
    | nil => simp [magnitude]
    | cons b digits ih =>
      intro acc
      calc
        _ = (10 * acc + (b.toNat - 0x30)) * 10 ^ digits.length + magnitude digits := by
          rw [List.map_cons, List.foldl_cons, ih, digitValue_character]
        _ = acc * 10 ^ (b :: digits).length + magnitude (b :: digits) := by
          rw [magnitude, List.length_cons, Nat.pow_succ', Nat.add_mul, Nat.add_assoc,
            Nat.mul_left_comm, ← Nat.mul_assoc]
  rw [Decimal.value, hfold digits 0, Nat.zero_mul, Nat.zero_add]

theorem natural?_map_character {digits : Bytes} {n : Nat} :
    Decimal.natural? (digits.map character) = some n ↔ IsDigits digits ∧ n = magnitude digits := by
  have hdigits : (digits.map character ≠ [] ∧
      (digits.map character).all Decimal.isDigit = true) ↔ IsDigits digits := by
    simp [IsDigits, isDigit_character]
  rw [Decimal.natural?, value_map_character]
  by_cases h : IsDigits digits
  · rw [if_pos (hdigits.2 h)]
    simp [h, eq_comm]
  · rw [if_neg fun hall => h (hdigits.1 hall)]
    simp [h]

/-- **The text of a field is read as the integer that its octets denote.** -/
theorem integer?_map_character {core : Bytes} {n : Int} :
    Decimal.integer? (core.map character) = some n ↔ Denotes core n := by
  constructor
  · intro h
    rw [Decimal.integer?.eq_def] at h
    split at h
    · rename_i heq
      obtain ⟨b, digits, rfl, hb, rfl⟩ := List.map_eq_cons_iff.1 heq
      obtain ⟨k, hk, rfl⟩ := Option.map_eq_some_iff.1 h
      obtain ⟨hdigits, rfl⟩ := natural?_map_character.1 hk
      obtain rfl := (character_eq_plus b).1 hb
      exact .plus hdigits
    · rename_i heq
      obtain ⟨b, digits, rfl, hb, rfl⟩ := List.map_eq_cons_iff.1 heq
      obtain ⟨k, hk, rfl⟩ := Option.map_eq_some_iff.1 h
      obtain ⟨hdigits, rfl⟩ := natural?_map_character.1 hk
      obtain rfl := (character_eq_minus b).1 hb
      exact .minus hdigits
    · obtain ⟨k, hk, rfl⟩ := Option.map_eq_some_iff.1 h
      obtain ⟨hdigits, rfl⟩ := natural?_map_character.1 hk
      exact .bare hdigits
  · intro h
    cases h with
    | bare hdigits =>
      have hread := natural?_map_character.2 ⟨hdigits, rfl⟩
      rw [Decimal.integer?.eq_3, hread]
      · rfl
      -- a sign is no digit
      · intro rest heq
        obtain ⟨b, digits, rfl, hb, -⟩ := List.map_eq_cons_iff.1 heq
        obtain rfl := (character_eq_plus b).1 hb
        exact absurd (hdigits.2 0x2B List.mem_cons_self) (by decide)
      · intro rest heq
        obtain ⟨b, digits, rfl, hb, -⟩ := List.map_eq_cons_iff.1 heq
        obtain rfl := (character_eq_minus b).1 hb
        exact absurd (hdigits.2 0x2D List.mem_cons_self) (by decide)
    | plus hdigits =>
      rw [List.map_cons, (character_eq_plus 0x2B).2 rfl, Decimal.integer?,
        natural?_map_character.2 ⟨hdigits, rfl⟩]
      rfl
    | minus hdigits =>
      rw [List.map_cons, (character_eq_minus 0x2D).2 rfl, Decimal.integer?,
        natural?_map_character.2 ⟨hdigits, rfl⟩]
      rfl

end Numeral

/-! ## Messages -/

namespace Message

/-- A message has a body, and this is the value of its first sequence field. -/
def Offers (m : Message) (value : Bytes) : Prop :=
  m.body ≠ [] ∧ (m.headers.values .sequence).head? = some value

end Message

open Numeral

/-- **The grammar of messages**: what a message carries, or what is wrong with it. -/
inductive Carries (m : Message) : Except Payload.Error Received → Prop
  | nothing (hbody : m.body = []) : Carries m (.ok .noPayload)
  | unnumbered (hbody : m.body ≠ []) (hnone : m.headers.values .sequence = []) :
    Carries m (.error .missingSequence)
  | binary {value : Bytes} (hvalue : m.Offers value) (hplain : ¬ ∀ b ∈ value, IsPlain b) :
    Carries m (.error (.malformedSequence (Utf8.decodeLossy value)))
  | payload {value core : Bytes} {n : Int} {p : Payload} (hvalue : m.Offers value)
    (hplain : ∀ b ∈ value, IsPlain b) (hcore : Stripped value core) (hn : Denotes core n)
    (hpos : 1 ≤ n) (hle : n ≤ 2 ^ 63 - 1) (hsequence : p.sequence = n) (hdata : p.data = m.body) :
    Carries m (.ok (.payload p))
  | notPositive {value core : Bytes} {n : Int} (hvalue : m.Offers value)
    (hplain : ∀ b ∈ value, IsPlain b) (hcore : Stripped value core) (hn : Denotes core n)
    (hge : -2 ^ 63 ≤ n) (hle : n ≤ 0) : Carries m (.error .invalidSequence)
  | noNumeral {value core : Bytes} (hvalue : m.Offers value) (hplain : ∀ b ∈ value, IsPlain b)
    (hcore : Stripped value core)
    (hn : ∀ n, Denotes core n → ¬ (-2 ^ 63 ≤ n ∧ n ≤ 2 ^ 63 - 1)) :
    Carries m (.error (.malformedSequence (String.ofList (value.map character))))

variable {m : Message} {value core : Bytes}

namespace Payload

theorem isWord_iff {n : Int} : isWord n = true ↔ -2 ^ 63 ≤ n ∧ n ≤ 2 ^ 63 - 1 := by
  rw [isWord, Bool.and_eq_true, decide_eq_true_iff, decide_eq_true_iff, Nat.pow_eq]
  omega

theorem readSequence_of_not_plain (h : ¬ ∀ b ∈ value, IsPlain b) :
    readSequence value = .error (.malformedSequence (Utf8.decodeLossy value)) := by
  rw [readSequence, plainText?_of_not_plain h]

/-- Plain octets are read as the integer that they denote between their padding. -/
theorem readSequence_of_denotes {n : Int} (hplain : ∀ b ∈ value, IsPlain b)
    (hcore : Stripped value core) (hn : Denotes core n) (hword : -2 ^ 63 ≤ n ∧ n ≤ 2 ^ 63 - 1) :
    readSequence value = .ok n := by
  rw [readSequence, plainText?_of_plain hplain]
  dsimp only
  rw [trimBy_map_character hcore, integer?_map_character.2 hn]
  exact if_pos (isWord_iff.2 hword)

theorem readSequence_of_not_word (hplain : ∀ b ∈ value, IsPlain b) (hcore : Stripped value core)
    (hn : ∀ n, Denotes core n → ¬ (-2 ^ 63 ≤ n ∧ n ≤ 2 ^ 63 - 1)) :
    readSequence value = .error (.malformedSequence (String.ofList (value.map character))) := by
  rw [readSequence, plainText?_of_plain hplain]
  dsimp only
  rw [trimBy_map_character hcore]
  cases hread : Decimal.integer? (core.map character) with
  | none => rfl
  | some n => exact if_neg fun hword => hn n (integer?_map_character.1 hread) (isWord_iff.1 hword)

end Payload

namespace Received

/-- The first sequence field of a message with a body decides: what is wrong with it is wrong with
the message. -/
theorem ofMessage_of_error {e : Payload.Error} (h : m.Offers value)
    (hread : Payload.readSequence value = .error e) : ofMessage m = .error e := by
  rw [ofMessage, if_neg h.1, Headers.first?_eq_head?_values, h.2]
  dsimp only
  rw [hread]

theorem ofMessage_of_ok {n : Int} (h : m.Offers value) (hread : Payload.readSequence value = .ok n) :
    ofMessage m = (Payload.make n.toNat m.body).map .payload := by
  rw [ofMessage, if_neg h.1, Headers.first?_eq_head?_values, h.2]
  dsimp only
  rw [hread]

/-- What a rule says a message carries is what is read. -/
theorem ofMessage_of_carries {r : Except Payload.Error Received} (h : Carries m r) :
    ofMessage m = r := by
  cases h with
  | nothing hbody => exact ofMessage_of_body_nil hbody
  | unnumbered hbody hnone =>
    rw [ofMessage, if_neg hbody, Headers.first?_eq_head?_values, hnone]
    rfl
  | binary hvalue hplain =>
    exact ofMessage_of_error hvalue (Payload.readSequence_of_not_plain hplain)
  | @payload value core n p hvalue hplain hcore hn hpos hle hsequence hdata =>
    have hread : Payload.readSequence value = .ok n :=
      Payload.readSequence_of_denotes hplain hcore hn ⟨by omega, hle⟩
    have hmake : Payload.make n.toNat m.body = .ok p :=
      Payload.make_eq_ok_iff.2 ⟨by omega, hdata⟩
    rw [ofMessage_of_ok hvalue hread, hmake, Except.map]
  | @notPositive value core n hvalue hplain hcore hn hge hle =>
    have hread : Payload.readSequence value = .ok n :=
      Payload.readSequence_of_denotes hplain hcore hn ⟨hge, by omega⟩
    have hmake : Payload.make n.toNat m.body = .error .invalidSequence :=
      dif_neg fun hrange => absurd hrange.1 (by omega)
    rw [ofMessage_of_ok hvalue hread, hmake, Except.map]
  | noNumeral hvalue hplain hcore hn =>
    exact ofMessage_of_error hvalue (Payload.readSequence_of_not_word hplain hcore hn)

/-- Some rule covers a message whose first sequence field is plain. -/
theorem exists_carries_of_plain (hvalue : m.Offers value) (hplain : ∀ b ∈ value, IsPlain b) :
    ∃ r, Carries m r := by
  obtain ⟨core, hcore⟩ := exists_stripped value
  by_cases hn : ∃ n, Denotes core n ∧ -2 ^ 63 ≤ n ∧ n ≤ 2 ^ 63 - 1
  · obtain ⟨n, hd, hge, hle⟩ := hn
    by_cases hpos : 1 ≤ n
    · have hmax : n.toNat ≤ maxSequence := by
        rw [maxSequence, Nat.pow_eq]
        omega
      have hnat : (n.toNat : Int) = n := Int.toNat_of_nonneg (by omega)
      exact ⟨.ok (.payload ⟨n.toNat, m.body, by omega, hmax⟩),
        .payload hvalue hplain hcore hd hpos hle hnat rfl⟩
    · exact ⟨_, .notPositive hvalue hplain hcore hd hge (by omega)⟩
  · exact ⟨_, .noNumeral hvalue hplain hcore fun n hd hword => hn ⟨n, hd, hword⟩⟩

/-- Some rule covers every message. -/
theorem exists_carries (m : Message) : ∃ r, Carries m r := by
  by_cases hbody : m.body = []
  · exact ⟨_, .nothing hbody⟩
  · cases hvalues : m.headers.values .sequence with
    | nil => exact ⟨_, .unnumbered hbody hvalues⟩
    | cons value others =>
      have hvalue : m.Offers value := ⟨hbody, by rw [hvalues]; rfl⟩
      by_cases hplain : ∀ b ∈ value, IsPlain b
      · exact exists_carries_of_plain hvalue hplain
      · exact ⟨_, .binary hvalue hplain⟩

/-- **A message is read as what the grammar says it carries**, as nothing else, and a payload that
is read has a number of 63 bits, from one on. -/
theorem ofMessage_grammar (m : Message) :
    (∀ r, ofMessage m = r ↔ Carries m r) ∧
      ∀ p, ofMessage m = .ok (.payload p) → 1 ≤ p.sequence ∧ p.sequence ≤ 2 ^ 63 - 1 := by
  have hcarries : Carries m (ofMessage m) := by
    obtain ⟨r, hr⟩ := exists_carries m
    rwa [ofMessage_of_carries hr]
  refine ⟨fun r => ⟨?_, ofMessage_of_carries⟩, ?_⟩
  · rintro rfl
    exact hcarries
  · intro p hp
    rw [hp] at hcarries
    cases hcarries with
    | payload _ _ _ _ hpos hle hsequence => exact ⟨by omega, by omega⟩

end Received
end PollTunnel
