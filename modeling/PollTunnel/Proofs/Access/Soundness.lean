import PollTunnel.Access.TokenCheck

/-!
# What a token that passes has shown

A token passes `TokenCheck.verify` if every step of it succeeds, and each step leaves something
behind that is known of the token: its algorithm, its signature, and how its times compare.

* `Vouched` collects what is known of a token that passes, and `verify_sound` is that nothing less
  lets a token pass.
* Seconds are added and subtracted modulo 2^64.  A token that passes is in time by whole numbers,
  too: what wraps around is only ever compared more strictly (`le_of_not_isExpired`,
  `le_of_not_isEarly`).
* The issuer and the audiences are compared only where a token names any.  One that names neither
  passes even though both are configured (`verify_unnamed`).
-/

set_option autoImplicit false

namespace PollTunnel

/-! ## Claims that are compared -/

namespace Claims

/-- The names in a claim, if it is there and holds names. -/
def named? (claims : Claims) (name : String) : Option (List String) :=
  (claims.lookup name).bind names?

/-- The point in time in a claim, if it is there and holds one. -/
def instantOf? (claims : Claims) (name : String) : Option UInt64 :=
  (claims.lookup name).bind instant?

/-- A claim is there and holds one of these names. -/
def Names (claims : Claims) (name : String) (wanted : List String) : Prop :=
  ∃ names, claims.named? name = some names ∧ ∃ w ∈ wanted, w ∈ names

theorem value?_reading {α : Type} (read? : Json → Option α) (claims : Claims) (name : String) :
    (reading read? claims name).value? = (claims.lookup name).bind read? := by
  rw [reading]
  cases claims.lookup name with
  | none => rfl
  | some v =>
    dsimp only [Option.bind_some]
    cases read? v <;> rfl

theorem lookup_of_reading_absent {α : Type} {read? : Json → Option α} {claims : Claims}
    {name : String} (h : reading read? claims name = .absent) : claims.lookup name = none := by
  rw [reading] at h
  split at h
  · assumption
  · split at h <;> cases h

end Claims

namespace TokenCheck

/-- Names are shared, unless there are none. -/
theorem names_of_shares {wanted : List String} {claims : Claims} {name : String}
    (h : shares wanted (Claims.reading Claims.names? claims name) = true) :
    claims.named? name = none ∨ claims.Names name wanted := by
  have hvalue := Claims.value?_reading Claims.names? claims name
  cases hreading : Claims.reading Claims.names? claims name with
  | absent | unreadable =>
    rw [hreading] at hvalue
    exact Or.inl hvalue.symm
  | value names =>
    rw [hreading] at h hvalue
    obtain ⟨w, hw, hwanted⟩ := List.any_eq_true.1 h
    exact Or.inr ⟨names, hvalue.symm, w, List.contains_iff_mem.1 hwanted, hw⟩

/-- A token that has not ended has not ended by whole numbers. -/
theorem le_of_not_isExpired {leeway now expiry : UInt64} (h : isExpired leeway now expiry = false) :
    (now.toNat : Int) - leeway.toNat ≤ expiry.toNat := by
  rw [isExpired, decide_eq_false_iff_not, UInt64.lt_iff_toNat_lt, UInt64.toNat_sub] at h
  have := now.toNat_lt
  have := leeway.toNat_lt
  omega

/-- A token that has begun has begun by whole numbers. -/
theorem le_of_not_isEarly {leeway now start : UInt64} (h : isEarly leeway now start = false) :
    (start.toNat : Int) ≤ now.toNat + leeway.toNat := by
  rw [isEarly, decide_eq_false_iff_not, UInt64.lt_iff_toNat_lt, UInt64.toNat_add] at h
  have := Nat.mod_le (now.toNat + leeway.toNat) (2 ^ 64)
  omega

/-! ## The steps of a check -/

theorem exists_of_bind {ε α β : Type} {x : Except ε α} {f : α → Except ε β} {b : β}
    (h : (x >>= f) = .ok b) : ∃ a, x = .ok a ∧ f a = .ok b := by
  cases x with
  | error e => cases h
  | ok a => exact ⟨a, rfl, h⟩

theorem eq_false_of_reject {fault : Token.Fault} {isFaulty : Bool} {u : Unit}
    (h : reject fault isFaulty = .ok u) : isFaulty = false := by
  cases isFaulty with
  | true => cases h
  | false => rfl

/-- The algorithm that is settled is the only one of the configuration. -/
theorem names_of_singleAlgorithm {names : List String} {algorithm : Algorithm}
    (h : singleAlgorithm names = .ok algorithm) : names = [algorithm.name] := by
  match names, h with
  | [name], h =>
    simp only [singleAlgorithm] at h
    cases hfound : Algorithm.ofName? name with
    | none =>
      rw [hfound] at h
      cases h
    | some found =>
      rw [hfound] at h
      obtain rfl := Except.ok.inj h
      rw [Algorithm.ofName?] at hfound
      have hname := List.find?_some hfound
      rw [beq_iff_eq.1 hname]
  | [], h => cases h
  | _ :: _ :: _, h => cases h

/-- A check holds what is configured. -/
theorem ofConfig_eq_ok {files : Files} {config : Config.Jwt} {c : TokenCheck}
    (h : ofConfig files config = .ok c) :
    config.algorithms = [c.algorithm.name] ∧ configuredKey files config c.algorithm = .ok c.key ∧
      c.leeway.toNat ≤ config.leewaySeconds ∧ c.issuer = config.issuer ∧
      c.audiences = config.audiences := by
  obtain ⟨algorithm, halgorithm, h⟩ := exists_of_bind h
  obtain ⟨key, hkey, h⟩ := exists_of_bind h
  cases h
  exact ⟨names_of_singleAlgorithm halgorithm, hkey, Nat.mod_le _ _, rfl, rfl⟩

/-- What is known of claims that pass. -/
theorem validate_eq_ok {c : TokenCheck} {now : UInt64} {claims : Claims}
    (h : c.validate now (Claims.standard claims) = .ok ()) :
    (∃ expiry, claims.instantOf? "exp" = some expiry ∧
        (now.toNat : Int) - c.leeway.toNat ≤ expiry.toNat) ∧
      (claims.lookup "nbf" = none ∨ ∃ start, claims.instantOf? "nbf" = some start ∧
        (start.toNat : Int) ≤ now.toNat + c.leeway.toNat) ∧
      (∀ issuer, c.issuer = some issuer →
        claims.named? "iss" = none ∨ claims.Names "iss" [issuer]) ∧
      (c.audiences ≠ [] → claims.named? "aud" = none ∨ claims.Names "aud" c.audiences) := by
  rw [validate] at h
  split at h
  · cases h
  · rename_i expiry hexpiry
    obtain ⟨_, hform, h⟩ := exists_of_bind h
    obtain ⟨_, hexpired, h⟩ := exists_of_bind h
    obtain ⟨_, hearly, h⟩ := exists_of_bind h
    obtain ⟨_, hissuer, haudience⟩ := exists_of_bind h
    refine ⟨⟨expiry, ?_, le_of_not_isExpired (eq_false_of_reject hexpired)⟩, ?_,
      fun issuer hsome => ?_, fun hne => ?_⟩
    · rw [Claims.instantOf?, ← Claims.value?_reading]
      exact hexpiry
    · have hvalue := Claims.value?_reading Claims.instant? claims "nbf"
      have hunreadable := eq_false_of_reject hform
      have hnotEarly := eq_false_of_reject hearly
      cases hstart : (Claims.standard claims).start with
      | absent => exact Or.inl (Claims.lookup_of_reading_absent hstart)
      | unreadable => exact absurd hstart (of_decide_eq_false hunreadable)
      | value start =>
        rw [hstart] at hnotEarly
        rw [show Claims.reading Claims.instant? claims "nbf" = .value start from hstart] at hvalue
        exact Or.inr ⟨start, hvalue.symm, le_of_not_isEarly hnotEarly⟩
    · have hshares := eq_false_of_reject hissuer
      rw [hsome, Bool.not_eq_false'] at hshares
      exact names_of_shares hshares
    · have hshares := eq_false_of_reject haudience
      rw [decide_eq_true hne, Bool.true_and, Bool.not_eq_false'] at hshares
      exact names_of_shares hshares

/-! ## Tokens that pass -/

/-- **What a token that passes has shown**: these claims, with what is configured, at this time. -/
structure Vouched (files : Files) (config : Config.Jwt) (now : UInt64) (text : Bytes)
    (claims : Claims) : Prop where
  /-- The header names the only algorithm that is configured, the signature is right under the key
  that is configured, and the claims are those that were signed. -/
  signed : ∃ algorithm key token verifies signature, config.algorithms = [algorithm.name] ∧
    configuredKey files config algorithm = .ok key ∧ Token.split? text = some token ∧
    token.algorithm = .ok algorithm ∧ key.verifier algorithm = .ok verifies ∧
    Token.decode token.signature = .ok signature ∧ verifies token.signed signature = true ∧
    Claims.read token.claims = .ok claims
  /-- The token has an end, which has not passed for longer than is tolerated. -/
  ends : ∃ expiry, claims.instantOf? "exp" = some expiry ∧
    (now.toNat : Int) - config.leewaySeconds ≤ expiry.toNat
  /-- If the token has a beginning, that is no further ahead than is tolerated. -/
  begins : claims.lookup "nbf" = none ∨ ∃ start, claims.instantOf? "nbf" = some start ∧
    (start.toNat : Int) ≤ now.toNat + config.leewaySeconds
  /-- If the token names an issuer, it is the one that is configured. -/
  issuer : ∀ issuer, config.issuer = some issuer →
    claims.named? "iss" = none ∨ claims.Names "iss" [issuer]
  /-- If the token names audiences, one of them is configured. -/
  audience : config.audiences ≠ [] →
    claims.named? "aud" = none ∨ claims.Names "aud" config.audiences

/-- **Tokens that pass are vouched for**, at every time and with every configuration. -/
theorem verify_sound {files : Files} {config : Config.Jwt} {c : TokenCheck}
    (hconfig : ofConfig files config = .ok c) {now : UInt64} {text : Bytes} {claims : Claims}
    (h : c.verify now text = .ok claims) : Vouched files config now text claims := by
  obtain ⟨halgorithms, hkey, hleeway, hissuer, haudiences⟩ := ofConfig_eq_ok hconfig
  rw [verify] at h
  split at h
  · cases h
  · rename_i token hsplit
    obtain ⟨algorithm, halgorithm, h⟩ := exists_of_bind h
    obtain ⟨_, hsame, h⟩ := exists_of_bind h
    obtain ⟨verifies, hverifies, h⟩ := exists_of_bind h
    obtain ⟨signature, hsignature, h⟩ := exists_of_bind h
    obtain ⟨_, hsigned, h⟩ := exists_of_bind h
    obtain ⟨read, hread, h⟩ := exists_of_bind h
    obtain ⟨_, hvalid, h⟩ := exists_of_bind h
    obtain rfl := Except.ok.inj h
    obtain rfl : algorithm = c.algorithm :=
      Classical.not_not.1 (of_decide_eq_false (eq_false_of_reject hsame))
    obtain ⟨⟨expiry, hexpiry, hends⟩, hbegins, hnames, hfor⟩ := validate_eq_ok hvalid
    have hverified : verifies token.signed signature = true := by
      simpa using eq_false_of_reject hsigned
    refine ⟨⟨c.algorithm, c.key, token, verifies, signature, halgorithms, hkey, hsplit, halgorithm,
      hverifies, hsignature, hverified, hread⟩, ⟨expiry, hexpiry, ?_⟩, ?_, ?_, ?_⟩
    · omega
    · refine hbegins.imp_right fun ⟨start, hstart, hle⟩ => ⟨start, hstart, ?_⟩
      omega
    · exact hissuer ▸ hnames
    · exact haudiences ▸ hfor

/-- What a check that is configured makes of the names in a token. -/
def namesOf (files : Files) (config : Config.Jwt) (now : UInt64) (text : Bytes) :
    Option (Option (List String) × Option (List String)) := do
  let c ← (ofConfig files config).toOption
  let claims ← (c.verify now text).toOption
  return (claims.named? "iss", claims.named? "aud")

theorem exists_of_namesOf {files : Files} {config : Config.Jwt} {now : UInt64} {text : Bytes}
    {issuers audiences : Option (List String)}
    (h : namesOf files config now text = some (issuers, audiences)) :
    ∃ c claims, ofConfig files config = .ok c ∧ c.verify now text = .ok claims ∧
      claims.named? "iss" = issuers ∧ claims.named? "aud" = audiences := by
  obtain ⟨c, hc, h⟩ := Option.bind_eq_some_iff.1 h
  obtain ⟨claims, hclaims, h⟩ := Option.bind_eq_some_iff.1 h
  obtain ⟨hissuers, haudiences⟩ := Prod.mk.inj (Option.some.inj h)
  refine ⟨c, claims, ?_, ?_, hissuers, haudiences⟩
  · cases hconfig : ofConfig files config <;> rw [hconfig] at hc <;> cases hc
    rfl
  · cases hverify : c.verify now text <;> rw [hverify] at hclaims <;> cases hclaims
    rfl

/-- A token of the issuer for two audiences, one of which is configured, in its last second. -/
theorem verify_sound_named :
    let files : Files := ⟨fun _ => .error .missing⟩
    let config : Config.Jwt := { secret := some "s", issuer := some "near", audiences := ["tunnel"] }
    let text := Bytes.ofString ("eyJ0eXAiOiJKV1QiLCJhbGciOiJIUzI1NiJ9." ++
      "eyJleHAiOjEwMCwiaXNzIjoibmVhciIsImF1ZCI6WyJvdGhlciIsInR1bm5lbCJdfQ." ++
      "hlxB6KpOnzjWe-rAMj_VTzbfSrIkDy43Ka6ov7oIe_g")
    ∃ c claims, ofConfig files config = .ok c ∧ c.verify 160 text = .ok claims ∧
      Vouched files config 160 text claims ∧ claims.named? "iss" = some ["near"] ∧
      claims.named? "aud" = some ["other", "tunnel"] := by
  intro files config text
  obtain ⟨c, claims, hconfig, hverify, hissuers, haudiences⟩ := exists_of_namesOf
    (show namesOf files config 160 text = some (some ["near"], some ["other", "tunnel"]) by
      decide +kernel)
  exact ⟨c, claims, hconfig, hverify, verify_sound hconfig hverify, hissuers, haudiences⟩

/-- **A token without issuer and audience passes** a check for which both are configured. -/
theorem verify_unnamed :
    let files : Files := ⟨fun _ => .error .missing⟩
    let config : Config.Jwt := { secret := some "s", issuer := some "near", audiences := ["tunnel"] }
    let text := Bytes.ofString ("eyJ0eXAiOiJKV1QiLCJhbGciOiJIUzI1NiJ9." ++ "eyJleHAiOjEwMH0." ++
      "Ay1GLvEedXqMQoO0b58C4GfgnZRhPI-UdrJmfyt2iYc")
    ∃ c claims, ofConfig files config = .ok c ∧ c.verify 160 text = .ok claims ∧
      ¬ claims.Names "iss" ["near"] ∧ ¬ claims.Names "aud" ["tunnel"] := by
  intro files config text
  obtain ⟨c, claims, hconfig, hverify, hissuers, haudiences⟩ := exists_of_namesOf
    (show namesOf files config 160 text = some (none, none) by decide +kernel)
  refine ⟨c, claims, hconfig, hverify, fun ⟨names, hnames, _⟩ => ?_, fun ⟨names, hnames, _⟩ => ?_⟩
  · rw [hissuers] at hnames
    cases hnames
  · rw [haudiences] at hnames
    cases hnames

end TokenCheck
end PollTunnel
