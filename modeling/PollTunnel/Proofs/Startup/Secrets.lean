import PollTunnel.Proofs.Access.Credentials
import PollTunnel.Proofs.Startup.Serving

/-!
# The secrets that access relies on

A policy may rely on octets that only the right callers know: the shared secret itself, or the key
that tokens are signed with (`Policy.secret?`).  Whoever is admitted then has shown these octets, in
the field for them or by a signature (`Shows`), which says something only if there are any.

* A shared secret is never empty, since no `SharedSecret` is.
* Nobody looks at the text of a secret for tokens, neither the rules nor the setup.  So with every
  configuration of such a secret the one with an empty text passes as well, and tokens signed with
  nothing are then admitted (`relies_of_valid`, `check_of_empty_key`).
-/

set_option autoImplicit false

namespace PollTunnel

open Access

/-! ## Signatures with a secret -/

/-- The signature of a token is the keyed digest of the rest of it. -/
def Token.SignedWith (text secret : Bytes) : Prop :=
  ∃ token digest, Token.split? text = some token ∧
    Token.decode token.signature = .ok (Digest.hmac digest secret token.signed)

/-- The algorithms with shared secrets compare keyed digests. -/
theorem Key.exists_keyed {algorithm : Algorithm} {key : Key} {verifies : Verifier}
    (hfits : algorithm.isHmac = true) (h : key.verifier algorithm = .ok verifies) :
    ∃ digest, verifies = keyed digest key.octets := by
  cases algorithm with
  | hs256 | hs384 | hs512 => exact ⟨_, (Except.ok.inj h).symm⟩
  | _ => cases hfits

namespace TokenCheck

variable {files : Files} {j : Config.Jwt} {c : TokenCheck} {secret : Bytes}

/-- A check with a secret has it from the text that is configured. -/
theorem exists_secret_of_key (h : ofConfig files j = .ok c) (hkey : c.key = .shared secret) :
    ∃ text, j.secret = some text ∧ secret = Bytes.ofString text ∧ c.algorithm.isHmac = true := by
  obtain ⟨-, hprovides⟩ := provides_of_ofConfig h
  rw [hkey] at hprovides
  cases hprovides with
  | secret text _ hsecret hfits => exact ⟨text, hsecret, rfl, hfits⟩

/-- A token passes a check with a secret only if it is signed with it. -/
theorem signedWith_of_verify (hfits : c.algorithm.isHmac = true) (hkey : c.key = .shared secret)
    {now : UInt64} {text : Bytes} {claims : Claims} (h : c.verify now text = .ok claims) :
    Token.SignedWith text secret := by
  rw [verify] at h
  split at h
  · cases h
  · rename_i token hsplit
    obtain ⟨_, -, h⟩ := exists_of_bind h
    obtain ⟨_, -, h⟩ := exists_of_bind h
    obtain ⟨verifies, hverifies, h⟩ := exists_of_bind h
    obtain ⟨signature, hsignature, h⟩ := exists_of_bind h
    obtain ⟨_, hsigned, -⟩ := exists_of_bind h
    obtain ⟨digest, rfl⟩ := Key.exists_keyed hfits hverifies
    have hequal : signature = Digest.hmac digest secret token.signed := by
      simpa [Key.keyed, hkey, Key.octets] using eq_false_of_reject hsigned
    exact ⟨token, digest, hsplit, hequal ▸ hsignature⟩

/-- What passes a check with a secret bears a token that is signed with it. -/
theorem exists_signedWith_of_check (hfits : c.algorithm.isHmac = true)
    (hkey : c.key = .shared secret) {now : UInt64} {headers : Headers} {claims : Claims}
    (h : c.check now headers = .ok claims) :
    ∃ value token, headers.first? .authorization = some value ∧ Bears value token ∧
      Token.SignedWith token secret := by
  rw [check] at h
  split at h
  · cases h
  · rename_i text htext
    cases hverify : c.verify now (Bytes.ofString (String.ofList text)) with
    | error fault =>
      rw [hverify] at h
      cases h
    | ok passed =>
      cases hvalue : headers.first? .authorization with
      | none => simp [bearerToken?, hvalue] at htext
      | some value =>
        obtain ⟨token, hbears, rfl⟩ := (bearerToken?_eq_some_iff hvalue).1 htext
        rw [Numeral.ofString_map_character hbears.plain_token] at hverify
        exact ⟨value, token, rfl, hbears, signedWith_of_verify hfits hkey hverify⟩

end TokenCheck

/-! ## Secrets of policies -/

namespace Access

/-- The octets that a policy takes for known to the right callers alone. -/
def Policy.secret? : Policy → Option Bytes
  | .permitAll => none
  | .sharedSecret s => some s.secret
  | .tokens c =>
    match c.key with
    | .shared secret => some secret
    | .published _ => none

/-- A request shows a secret: it carries it in the field for it, or bears a token signed with it. -/
inductive Shows (s : Config.Security) (headers : Headers) (secret : Bytes) : Prop
  | field {name : HeaderName} (hjwt : s.jwt = none)
    (hname : HeaderName.ofString? s.secretHeader = some name)
    (hvalue : headers.first? name = some secret) : Shows s headers secret
  | token {jwt : Config.Jwt} {value token : Bytes} (hjwt : s.jwt = some jwt)
    (hvalue : headers.first? .authorization = some value) (hbears : Bears value token)
    (hsigned : Token.SignedWith token secret) : Shows s headers secret

/-- A text is configured for a secret: that of tokens, or else the shared one. -/
inductive Configured (s : Config.Security) (text : String) : Prop
  | field (hjwt : s.jwt = none) (hsecret : s.secret = some text) : Configured s text
  | token {jwt : Config.Jwt} (hjwt : s.jwt = some jwt) (hsecret : jwt.secret = some text) :
    Configured s text

/-- **What is known of the secret that a policy relies on.** -/
structure Relies (s : Config.Security) (policy : Policy) (secret : Bytes) : Prop where
  /-- It is a text that is configured. -/
  configured : ∃ text, Configured s text ∧ secret = Bytes.ofString text
  /-- It is empty only where the text for tokens is. -/
  empty_iff : secret = [] ↔ ∃ jwt, s.jwt = some jwt ∧ jwt.secret = some ""
  /-- Nobody is admitted without showing it. -/
  shown : ∀ now headers, policy.check now headers = .ok () → Shows s headers secret

namespace Policy

variable {files : Files} {s : Config.Security} {policy : Policy} {secret : Bytes}

theorem relies_of_ofConfig (h : ofConfig files s = .ok policy)
    (hsecret : policy.secret? = some secret) : Relies s policy secret := by
  cases setUp_of_ofConfig h with
  | @tokens jwt c hjwt hcheck =>
    have hkey : c.key = .shared secret := by
      rw [secret?] at hsecret
      split at hsecret <;> simp_all
    obtain ⟨text, htext, rfl, hfits⟩ := TokenCheck.exists_secret_of_key hcheck hkey
    refine ⟨⟨text, .token hjwt htext, rfl⟩, ?_, ?_⟩
    · constructor
      · intro hempty
        refine ⟨jwt, hjwt, ?_⟩
        rw [htext, Classical.not_not.1 (mt Bytes.ofString_ne_nil (not_not.2 hempty))]
      · rintro ⟨other, hother, hblank⟩
        obtain rfl := Option.some.inj (hjwt.symm.trans hother)
        obtain rfl := Option.some.inj (htext.symm.trans hblank)
        rfl
    · intro now headers hok
      cases hpassed : c.check now headers with
      | error e =>
        rw [check, hpassed] at hok
        cases hok
      | ok claims =>
        obtain ⟨value, token, hvalue, hbears, hsigned⟩ :=
          TokenCheck.exists_signedWith_of_check hfits hkey hpassed
        exact .token hjwt hvalue hbears hsigned
  | @secret text shared hjwt htext hname hshared =>
    obtain rfl := Option.some.inj hsecret
    refine ⟨⟨text, .field hjwt htext, hshared⟩, ?_, fun now headers hok => ?_⟩
    · refine iff_of_false shared.nonempty ?_
      rintro ⟨jwt, hsome, -⟩
      cases hjwt.symm.trans hsome
    · exact .field hjwt hname ((shared.check_eq_ok_iff headers).1 hok)
  | nothing => cases hsecret

end Policy
end Access

/-! ## Configurations without problems -/

namespace Config

variable {fileExists : String → Bool}

/-- The rules for tokens do not look at the text of their secret. -/
theorem Jwt.problems_of_secret {j : Jwt} {text : String} (h : j.secret = some text)
    (other : String) :
    { j with secret := some other }.problems fileExists = j.problems fileExists := by
  have halgorithm : { j with secret := some other }.algorithm? = j.algorithm? := rfl
  have hkey :
      { j with secret := some other }.keyProblems fileExists = j.keyProblems fileExists := by
    rw [Jwt.keyProblems, Jwt.keyProblems, halgorithm, h]
    cases j.publicKeyLocation <;> rfl
  rw [Jwt.problems, Jwt.problems, hkey]
  rfl

/-- The same configuration, with an empty text for the secret of its tokens. -/
def emptied (config : Config) (jwt : Jwt) : Config :=
  { config with security := { config.security with jwt := some { jwt with secret := some "" } } }

theorem problems_emptied {config : Config} {jwt : Jwt} {text : String}
    (hjwt : config.security.jwt = some jwt) (htext : jwt.secret = some text) :
    (config.emptied jwt).problems fileExists = config.problems fileExists := by
  have hsecurity : (config.emptied jwt).security.problems fileExists =
      config.security.problems fileExists := by
    simp [Security.problems, emptied, hjwt, Jwt.problems_of_secret htext]
  rw [problems, problems, hsecurity]
  rfl

end Config

namespace Access
namespace Policy

variable {files : Files} {fileExists : String → Bool} {config : Config} {policy : Policy}

/-- **Secrets of a configuration that is accepted.** -/
structure Accepted (files : Files) (fileExists : String → Bool) (config : Config)
    (policy : Policy) : Prop where
  /-- The secret that is relied on is configured, has to be shown, and is empty only where the text
  for tokens is. -/
  relies : ∀ secret, policy.secret? = some secret → Relies config.security policy secret
  /-- That text may be empty: with any other, the empty one is accepted as well. -/
  unchecked : ∀ jwt text, config.security.jwt = some jwt → jwt.secret = some text →
    (config.emptied jwt).problems fileExists = [] ∧
      ∃ other, ofConfig files (config.emptied jwt).security = .ok other ∧ other.secret? = some []

/-- A token check without problems can be set up with its secret, and then relies on that. -/
theorem exists_ofConfig_of_secret {s : Config.Security} {jwt : Config.Jwt} {text : String}
    (hjwt : s.jwt = some jwt) (htext : jwt.secret = some text)
    (hvalid : jwt.problems fileExists = []) :
    ∃ policy, ofConfig files s = .ok policy ∧ policy.secret? = some (Bytes.ofString text) := by
  obtain ⟨algorithm, halgorithm, hhas⟩ := Config.Jwt.problems_eq_nil_iff.1 hvalid
  cases hhas with
  | file _ hnone => cases htext.symm.trans hnone
  | secret _ _ hlocation hfits =>
    have hprovides : TokenCheck.Provides files jwt algorithm (.shared (Bytes.ofString text)) :=
      .secret text hlocation htext hfits
    obtain ⟨c, hc, -, hkey⟩ := TokenCheck.exists_ofConfig_of_provides halgorithm hprovides
    refine ⟨.tokens c, ?_, ?_⟩
    · rw [ofConfig.eq_def, hjwt]
      dsimp only
      rw [hc]
    · rw [secret?, hkey]

/-- **Nobody is admitted without the secret of an accepted configuration**, and only the secret of
tokens can be empty. -/
theorem relies_of_valid (hvalid : config.problems fileExists = [])
    (h : ofConfig files config.security = .ok policy) :
    Accepted files fileExists config policy where
  relies := fun _ => relies_of_ofConfig h
  unchecked := by
    intro jwt text hjwt htext
    have hemptied : (config.emptied jwt).problems fileExists = [] :=
      (Config.problems_emptied hjwt htext).trans hvalid
    obtain ⟨⟨-, -, hsecurity⟩, -⟩ := Config.problems_eq_nil_iff.1 hemptied
    obtain ⟨-, htokens⟩ := Config.Security.problems_eq_nil_iff.1 hsecurity
    exact ⟨hemptied, exists_ofConfig_of_secret rfl rfl (htokens _ rfl)⟩

/-- A secret in the field that is the default. -/
def letmein : SharedSecret :=
  ⟨⟨"x-auth-token"⟩, Bytes.ofString "letmein", Bytes.ofString_ne_nil (by decide)⟩

/-- With a shared secret, an empty field shows nothing. -/
theorem relies_of_valid_letmein :
    let files : Files := ⟨fun _ => .error .missing⟩
    let config : Config := { security := { secret := some "letmein" } }
    ∃ policy, config.problems files.contains = [] ∧
      ofConfig files config.security = .ok policy ∧
      policy.secret? = some (Bytes.ofString "letmein") ∧
      ∀ now, policy.check now [(⟨"x-auth-token"⟩, [])] ≠ .ok () := by
  intro files config
  have hvalid : config.problems files.contains = [] := by decide +kernel
  have hset : ∃ policy, ofConfig files config.security = .ok policy ∧
      policy.secret? = some (Bytes.ofString "letmein") := by
    have hname : HeaderName.ofString? "X-AUTH-TOKEN" = some ⟨"x-auth-token"⟩ := by decide +kernel
    have hmake : SharedSecret.make "X-AUTH-TOKEN" "letmein" = .ok letmein := by
      rw [SharedSecret.make_of_ne_empty (by decide), hname]
      rfl
    refine ⟨.sharedSecret letmein, ?_, rfl⟩
    rw [ofConfig.eq_def]
    exact congrArg (Except.map Policy.sharedSecret) hmake
  obtain ⟨policy, hpolicy, hsecret⟩ := hset
  have hrelies := (relies_of_valid hvalid hpolicy).relies _ hsecret
  refine ⟨policy, hvalid, hpolicy, hsecret, fun now hok => ?_⟩
  cases hrelies.shown now _ hok with
  | field _ _ hvalue =>
    obtain ⟨field, hfield, heq⟩ := Option.map_eq_some_iff.1 hvalue
    obtain rfl := List.mem_singleton.1 (List.mem_of_find?_eq_some hfield)
    exact absurd heq.symm (Bytes.ofString_ne_nil (by decide))
  | token hjwt => cases hjwt

/-- **With an empty secret for tokens, a token that is signed with nothing passes.** -/
theorem check_of_empty_key :
    let files : Files := ⟨fun _ => .error .missing⟩
    let config : Config := { security := { jwt := some { secret := some "" } } }
    let headers : Headers := [(.authorization, Bytes.ofString ("Bearer " ++
      "eyJ0eXAiOiJKV1QiLCJhbGciOiJIUzI1NiJ9." ++ "eyJleHAiOjEwMH0." ++
      "y3Yc-rB7Ilxo_sjVxL9AZJAoflMludv6AzrOkKLqz0U"))]
    ∃ policy, config.problems files.contains = [] ∧ ofConfig files config.security = .ok policy ∧
      policy.secret? = some [] ∧ policy.check 100 headers = .ok () := by
  intro files config headers
  exact ⟨_, by decide +kernel, rfl, rfl, by decide +kernel⟩

end Policy
end Access
end PollTunnel
