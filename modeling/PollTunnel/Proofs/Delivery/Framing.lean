import PollTunnel.Payload.Framing

/-!
# A payload survives its message

`Payload.assignTo` writes the sequence number in decimal, and `Received.ofMessage` reads it back.
Whatever message it was written into, what is read is the payload itself (`ofMessage_assignTo`); a
payload without bytes reads as none.  `Payload.Framed` says the same of the message as a whole, the
fields that it had before included.

The number passes through three forms: digits, octets, and the text of a field value.
-/

set_option autoImplicit false

namespace PollTunnel

/-! ## Decimal numerals -/

namespace Decimal

theorem isDigit_of_mem_toDigits {n : Nat} {c : Char} (h : c ∈ Nat.toDigits 10 n) :
    isDigit c = true :=
  Nat.isDigit_of_mem_toDigits (by decide) (by decide) h

/-- **Reading the digits of a number gives the number.** -/
theorem natural?_toDigits (n : Nat) : natural? (Nat.toDigits 10 n) = some n := by
  have hall : (Nat.toDigits 10 n).all isDigit = true :=
    List.all_eq_true.2 fun c hc => isDigit_of_mem_toDigits hc
  rw [natural?, if_pos ⟨Nat.toDigits_ne_nil, hall⟩, value]
  exact congrArg some Nat.ofDigitChars_ten_toDigits

theorem integer?_toDigits (n : Nat) : integer? (Nat.toDigits 10 n) = some (n : Int) := by
  have hn := natural?_toDigits n
  have hdigit : ∀ c ∈ Nat.toDigits 10 n, isDigit c = true := fun c => isDigit_of_mem_toDigits
  rw [integer?.eq_def]
  split
  · rename_i heq
    exact absurd (hdigit '+' (heq ▸ List.mem_cons_self)) (by decide)
  · rename_i heq
    exact absurd (hdigit '-' (heq ▸ List.mem_cons_self)) (by decide)
  · rw [hn]
    rfl

/-- A digit is one octet, which may stand in a field value. -/
theorem octet_of_isDigit {c : Char} (h : isDigit c = true) :
    String.utf8EncodeChar c = [c.toNat.toUInt8] ∧ isPlainOctet c.toNat.toUInt8 = true ∧
      Char.ofNat c.toNat.toUInt8.toNat = c ∧ Payload.isPadding c = false := by
  have hall : ∀ n < 58, 48 ≤ n → String.utf8EncodeChar (Char.ofNat n) = [n.toUInt8] ∧
      isPlainOctet n.toUInt8 = true ∧ Char.ofNat n.toUInt8.toNat = Char.ofNat n ∧
      Payload.isPadding (Char.ofNat n) = false := by decide
  rw [isDigit, Bool.and_eq_true, decide_eq_true_eq, decide_eq_true_eq] at h
  have hlo : 48 ≤ c.toNat := h.1
  have hhi : c.toNat ≤ 57 := h.2
  have hc := hall c.toNat (Nat.lt_succ_of_le hhi) hlo
  rwa [Char.ofNat_toNat] at hc

end Decimal

/-! ## Field values -/

theorem flatMap_utf8EncodeChar_digits {digits : List Char}
    (h : ∀ c ∈ digits, Decimal.isDigit c = true) :
    digits.flatMap String.utf8EncodeChar = digits.map (·.toNat.toUInt8) := by
  induction digits with
  | nil => rfl
  | cons c digits ih =>
    rw [List.flatMap_cons, (Decimal.octet_of_isDigit (h c List.mem_cons_self)).1,
      ih fun d hd => h d (List.mem_cons_of_mem c hd)]
    rfl

/-- A text of digits is what its octets stand for. -/
theorem plainText?_digits {digits : List Char} (h : ∀ c ∈ digits, Decimal.isDigit c = true) :
    plainText? (digits.flatMap String.utf8EncodeChar) = some digits := by
  have hplain : (digits.map (·.toNat.toUInt8)).all isPlainOctet = true := by
    rw [List.all_map, List.all_eq_true]
    exact fun c hc => (Decimal.octet_of_isDigit (h c hc)).2.1
  rw [flatMap_utf8EncodeChar_digits h, plainText?, if_pos hplain, List.map_map]
  refine congrArg some ((List.map_congr_left fun c hc => ?_).trans (List.map_id digits))
  exact (Decimal.octet_of_isDigit (h c hc)).2.2.1

/-- Nothing is stripped from a text of which nothing is to be dropped. -/
theorem trimBy_of_forall {drop : Char → Bool} {cs : List Char} (h : ∀ c ∈ cs, drop c = false) :
    Text.trimBy drop cs = cs := by
  have hkeep : ∀ ds : List Char, (∀ c ∈ ds, drop c = false) → ds.dropWhile drop = ds := by
    intro ds hds
    cases ds with
    | nil => rfl
    | cons d ds => exact List.dropWhile_cons_of_neg (by simp [hds d List.mem_cons_self])
  rw [Text.trimBy, hkeep cs h, hkeep cs.reverse fun c hc => h c (List.mem_reverse.1 hc),
    List.reverse_reverse]

theorem Headers.first?_insert_self (headers : Headers) (name : HeaderName) (value : Bytes) :
    (headers.insert name value).first? name = some value := by
  rw [first?_eq_head?_values, values_insert_self]
  rfl

namespace Payload

theorem readSequence_decimalValue {n : Nat} (h : n ≤ maxSequence) :
    readSequence (decimalValue n) = .ok (n : Int) := by
  have hdigits : ∀ c ∈ Nat.toDigits 10 n, Decimal.isDigit c = true :=
    fun c => Decimal.isDigit_of_mem_toDigits
  have htext : plainText? (decimalValue n) = some (Nat.toDigits 10 n) := by
    rw [decimalValue, Bytes.ofString, Nat.toString_eq_ofList_toDigits, String.toList_ofList]
    exact plainText?_digits hdigits
  have hword : isWord (n : Int) = true := by
    rw [maxSequence, Nat.pow_eq] at h
    rw [isWord, Nat.pow_eq, Bool.and_eq_true, decide_eq_true_eq, decide_eq_true_eq]
    omega
  simp only [readSequence, htext,
    trimBy_of_forall fun c hc => (Decimal.octet_of_isDigit (hdigits c hc)).2.2.2,
    Decimal.integer?_toDigits, hword, if_true]

/-- **What is read from a message is the payload that was written into it.** -/
theorem ofMessage_assignTo (p : Payload) (m : Message) :
    Received.ofMessage (p.assignTo m) =
      .ok (if p.data = [] then .noPayload else .payload p) := by
  by_cases hdata : p.data = []
  · rw [if_pos hdata]
    exact Received.ofMessage_of_body_nil hdata
  · simp only [Received.ofMessage, assignTo, if_neg hdata, Headers.first?_insert_self,
      readSequence_decimalValue p.sequence_le, Int.toNat_natCast, make_self]
    rfl

/-- A payload that was read has the bytes of its message, and there are some. -/
theorem data_of_ofMessage {source : Message} {p : Payload}
    (h : Received.ofMessage source = .ok (.payload p)) : p.data = source.body ∧ p.data ≠ [] := by
  by_cases hbody : source.body = []
  · rw [Received.ofMessage_of_body_nil hbody] at h
    cases h
  · unfold Received.ofMessage at h
    rw [if_neg hbody] at h
    split at h
    · cases h
    · split at h
      · cases h
      · rename_i n _
        cases hmake : make n.toNat source.body with
        | error e =>
          rw [hmake] at h
          cases h
        | ok q =>
          rw [hmake] at h
          cases h
          have hdata := (make_eq_ok_iff.1 hmake).2
          exact ⟨hdata, by rwa [hdata]⟩

/-! ## The message as a whole -/

/-- `after` is the message `before` with the payload in place of what it carried. -/
structure Framed (p : Payload) (before after : Message) : Prop where
  /-- The number is there once, however often it was there before. -/
  sequence : after.headers.values .sequence = [decimalValue p.sequence]
  length : after.headers.values .contentLength = [decimalValue p.data.length]
  body : after.body = p.data
  /-- Every other name keeps its values, in order. -/
  others : ∀ name, name ≠ .sequence → name ≠ .contentLength →
    after.headers.values name = before.headers.values name
  read : Received.ofMessage after = .ok (if p.data = [] then .noPayload else .payload p)
  /-- A payload that some message brought is read again. -/
  again : ∀ source, Received.ofMessage source = .ok (.payload p) →
    Received.ofMessage after = .ok (.payload p)

/-- **Writing a payload frames it.**  Neither the fields nor the body of the message matter. -/
theorem assignTo_framed (p : Payload) (m : Message) : p.Framed m (p.assignTo m) where
  sequence := Headers.values_insert_self _ _ _
  length := by
    have hne : HeaderName.contentLength ≠ .sequence := by decide
    rw [assignTo, Headers.values_insert_of_ne _ hne, Headers.values_insert_self]
  body := rfl
  others := by
    intro name hseq hlen
    rw [assignTo, Headers.values_insert_of_ne _ hseq, Headers.values_insert_of_ne _ hlen]
  read := ofMessage_assignTo p m
  again := by
    intro source hsource
    have hdata := (data_of_ofMessage hsource).2
    rw [ofMessage_assignTo, if_neg hdata]

end Payload
end PollTunnel
