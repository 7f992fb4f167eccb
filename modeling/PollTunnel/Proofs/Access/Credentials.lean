import Mathlib.Data.List.Forall2
import Mathlib.Data.List.TakeWhile
import PollTunnel.Access.Policy
import PollTunnel.Proofs.Delivery.Reading

/-!
# Which credentials are admitted

A policy looks at the fields of a request and at the clock.  This file says what it makes of them in
terms of the fields as they were sent, in octets and with names in any spelling (`Sent`).

* `Sent.first?` is the value that counts: the first one under a name, however either is spelled.
* `Bears` is the grammar of values with a token: plain octets, the scheme in any case, a space, and
  then the token between spaces and tabs.  The reader works on characters, and finds exactly these
  tokens (`bearerToken?_eq_some_iff`).
* `Admits` is what a policy does, whatever it was set up from: a token is left to its check, a
  secret has to be there octet by octet, and a request is let in without either only if neither is
  configured.

Only two fields are ever looked at, and of these only the first value.  So a request without
credentials and one with credentials that come too late are treated alike (`Admits.repeated`).
-/

set_option autoImplicit false

namespace PollTunnel

open Numeral

/-! ## Fields as they were sent -/

namespace HeaderName

/-- Two texts spell one name: they differ in the case of letters alone. -/
def SameSpelling (a b : String) : Prop := a.toList.map Char.toLower = b.toList.map Char.toLower

instance (a b : String) : Decidable (SameSpelling a b) := inferInstanceAs (Decidable (_ = _))

theorem text_of_ofString? {text : String} {name : HeaderName} (h : ofString? text = some name) :
    name.text = String.ofList (text.toList.map Char.toLower) := by
  rw [ofString?] at h
  split at h
  · rw [← Option.some.inj h]
  · cases h

/-- Two spellings of a name are read as the same. -/
theorem eq_iff_sameSpelling {a b : String} {m n : HeaderName} (ha : ofString? a = some m)
    (hb : ofString? b = some n) : m = n ↔ SameSpelling a b := by
  have hnames : m = n ↔ m.text = n.text :=
    ⟨congrArg text, fun h => by cases m; cases n; simpa using h⟩
  rw [hnames, text_of_ofString? ha, text_of_ofString? hb, String.ofList_inj, SameSpelling]

end HeaderName

/-- The fields of a request as they were sent: names in any spelling, with any octets for values. -/
abbrev Sent := List (String × Bytes)

namespace Sent

/-- The first value under a name, however either is spelled. -/
def first? (sent : Sent) (name : String) : Option Bytes :=
  (sent.find? fun field => HeaderName.SameSpelling field.1 name).map (·.2)

/-- The fields are read as these: every name is one, and the values stay as they are. -/
def ReadAs (sent : Sent) (headers : Headers) : Prop :=
  List.Forall₂ (fun field header => HeaderName.ofString? field.1 = some header.1 ∧
    field.2 = header.2) sent headers

/-- **The value that counts is the first one that was sent.** -/
theorem ReadAs.first? {sent : Sent} {headers : Headers} (h : sent.ReadAs headers) {text : String}
    {name : HeaderName} (hname : HeaderName.ofString? text = some name) :
    headers.first? name = sent.first? text := by
  induction h with
  | nil => rfl
  | @cons field header sent headers hfield _ ih =>
    have hsame := HeaderName.eq_iff_sameSpelling hfield.1 hname
    by_cases hhere : header.1 = name
    · simp [Headers.first?, Sent.first?, hhere, hsame.1 hhere, hfield.2]
    · simpa [Headers.first?, Sent.first?, hhere, mt hsame.2 hhere] using ih

/-- A value behind another one of its name does not count. -/
theorem first?_append_repeated {before after : Sent} {field : String × Bytes}
    (h : ∃ earlier ∈ before, HeaderName.SameSpelling earlier.1 field.1) (name : String) :
    first? (before ++ field :: after) name = first? (before ++ after) name := by
  obtain ⟨earlier, hearlier, hsame⟩ := h
  by_cases hname : HeaderName.SameSpelling field.1 name
  · -- the earlier field has the name as well, so that neither list is searched any further
    have hfound : (before.find? fun field => HeaderName.SameSpelling field.1 name).isSome = true :=
      List.find?_isSome.2 ⟨earlier, hearlier, decide_eq_true (hsame.trans hname)⟩
    obtain ⟨found, hfound⟩ := Option.isSome_iff_exists.1 hfound
    simp [first?, List.find?_append, hfound]
  · simp [first?, List.find?_append, hname]

end Sent

/-! ## Values with a token -/

namespace Numeral

theorem toNat_character : ∀ b, (character b).toNat = b.toNat := forall_octet (by decide +kernel)

theorem character_injective {a b : UInt8} (h : character a = character b) : a = b := by
  rw [← UInt8.toNat_inj, ← toNat_character a, ← toNat_character b, h]

/-- The white space among plain octets is padding. -/
theorem isBlank_character :
    ∀ b, IsPlain b → Text.isBlank (character b) = Payload.isPadding (character b) :=
  forall_octet (by decide +kernel)

/-- Plain octets are the UTF-8 form of their characters. -/
theorem utf8EncodeChar_character : ∀ b, IsPlain b → String.utf8EncodeChar (character b) = [b] :=
  forall_octet (by decide +kernel)

theorem ofString_map_character {octets : Bytes} (h : ∀ b ∈ octets, IsPlain b) :
    Bytes.ofString (String.ofList (octets.map character)) = octets := by
  rw [Bytes.ofString, String.toList_ofList, List.flatMap_map]
  calc octets.flatMap (fun b => String.utf8EncodeChar (character b))
    _ = octets.flatMap (fun b => [b]) :=
      List.flatMap_congr fun b hb => utf8EncodeChar_character b (h b hb)
    _ = octets := List.flatMap_singleton' octets

/-- An octet, as a small letter if it is a capital one. -/
def small (b : UInt8) : UInt8 := if 0x41 ≤ b ∧ b ≤ 0x5A then b + 0x20 else b

theorem toLower_character : ∀ b, IsPlain b → (character b).toLower = character (small b) :=
  forall_octet (by decide +kernel)

theorem trimBy_congr {p q : Char → Bool} {cs : List Char} (h : ∀ c ∈ cs, p c = q c) :
    Text.trimBy p cs = Text.trimBy q cs := by
  have hfront : ∀ ds : List Char, (∀ c ∈ ds, p c = q c) → ds.dropWhile p = ds.dropWhile q := by
    intro ds
    induction ds with
    | nil => exact fun _ => rfl
    | cons d ds ih =>
      intro hds
      obtain ⟨hd, hds⟩ := List.forall_mem_cons.1 hds
      rw [List.dropWhile_cons, List.dropWhile_cons, hd, ih hds]
  rw [Text.trimBy, Text.trimBy, hfront cs h, hfront]
  intro c hc
  exact h c ((List.dropWhile_sublist q).subset (List.mem_reverse.1 hc))

end Numeral

namespace Access

/-- **Values with a token**: plain octets, the scheme in any case, a space, and the token with
padding around it. -/
structure Bears (value token : Bytes) : Prop where
  plain : ∀ b ∈ value, IsPlain b
  form : ∃ scheme rest, value = scheme ++ 0x20 :: rest ∧
    scheme.map small = Bytes.ofString "bearer" ∧ Stripped rest token
  nonempty : token ≠ []

theorem Bears.plain_token {value token : Bytes} (h : Bears value token) :
    ∀ b ∈ token, IsPlain b := by
  obtain ⟨scheme, rest, rfl, -, ⟨before, after, rfl, -, -⟩, -, -⟩ := h.form
  intro b hb
  exact h.plain b (by simp [hb])

/-- A scheme has no space in it. -/
theorem ne_space_of_scheme {scheme : Bytes} (h : scheme.map small = Bytes.ofString "bearer") :
    ∀ b ∈ scheme, b ≠ 0x20 := by
  rintro b hb rfl
  have hmem : small 0x20 ∈ scheme.map small := List.mem_map_of_mem hb
  rw [h] at hmem
  exact absurd hmem (by decide)

theorem character_ne_space {b : UInt8} (h : b ≠ 0x20) : character b ≠ ' ' := fun heq =>
  h (character_injective heq)

/-- The scheme is read off the characters as off the octets. -/
theorem scheme_iff {scheme : Bytes} (h : ∀ b ∈ scheme, IsPlain b) :
    (scheme.map character).map Char.toLower = "bearer".toList ↔
      scheme.map small = Bytes.ofString "bearer" := by
  have hlower : (scheme.map character).map Char.toLower = (scheme.map small).map character := by
    rw [List.map_map, List.map_map]
    exact List.map_congr_left fun b hb => toLower_character b (h b hb)
  have hword : "bearer".toList = (Bytes.ofString "bearer").map character := by decide +kernel
  rw [hlower, hword]
  exact (List.map_injective_iff.2 fun _ _ => character_injective).eq_iff

/-- Between padding, plain octets are stripped of white space. -/
theorem trimBy_isBlank {rest token : Bytes} (hplain : ∀ b ∈ rest, IsPlain b)
    (h : Stripped rest token) :
    Text.trimBy Text.isBlank (rest.map character) = token.map character := by
  rw [← trimBy_map_character h]
  refine trimBy_congr fun c hc => ?_
  obtain ⟨b, hb, rfl⟩ := List.mem_map.1 hc
  exact isBlank_character b (hplain b hb)

end Access

namespace TokenCheck

open Access

variable {headers : Headers} {value token : Bytes}

/-- What the reader makes of plain octets with a space among them. -/
theorem bearerToken?_of_split {scheme rest : Bytes}
    (hvalue : headers.first? .authorization = some (scheme ++ 0x20 :: rest))
    (hplain : ∀ b ∈ scheme ++ 0x20 :: rest, IsPlain b) (hscheme : ∀ b ∈ scheme, b ≠ 0x20)
    (hrest : Stripped rest token) :
    bearerToken? headers =
      if scheme.map small = Bytes.ofString "bearer" ∧ token ≠ [] then some (token.map character)
      else none := by
  obtain ⟨hplainScheme, hplainRest⟩ := List.forall_mem_append.1 hplain
  have hcharacters : ∀ c ∈ scheme.map character, decide (c ≠ ' ') = true :=
    List.forall_mem_map.2 fun b hb => decide_eq_true (character_ne_space (hscheme b hb))
  have htake : ((scheme.map character ++ ' ' :: rest.map character).takeWhile fun c => c ≠ ' ') =
      scheme.map character := by
    rw [List.takeWhile_append_of_pos hcharacters]
    simp
  have hdrop : ((scheme.map character ++ ' ' :: rest.map character).dropWhile fun c => c ≠ ' ') =
      ' ' :: rest.map character := by
    rw [List.dropWhile_append_of_pos hcharacters]
    simp
  have htext : plainText? (scheme ++ 0x20 :: rest) =
      some (scheme.map character ++ ' ' :: rest.map character) := by
    rw [plainText?_of_plain hplain, List.map_append, List.map_cons]
    rfl
  rw [bearerToken?, hvalue]
  simp only [Option.bind_eq_bind, Option.bind_some, htext]
  rw [hdrop, htake]
  simp only [scheme_iff hplainScheme,
    trimBy_isBlank (List.forall_mem_cons.1 hplainRest).2 hrest, ne_eq, List.map_eq_nil_iff]

/-- A token is found only in plain octets with a space among them. -/
theorem exists_split_of_bearerToken? {text : List Char}
    (hvalue : headers.first? .authorization = some value) (h : bearerToken? headers = some text) :
    ∃ scheme rest, value = scheme ++ 0x20 :: rest ∧ (∀ b ∈ value, IsPlain b) ∧
      ∀ b ∈ scheme, b ≠ 0x20 := by
  rw [bearerToken?, hvalue] at h
  by_cases hplain : ∀ b ∈ value, IsPlain b
  · by_cases hspace : 0x20 ∈ value
    · obtain ⟨scheme, rest, rfl, hscheme⟩ := List.eq_append_cons_of_mem hspace
      exact ⟨scheme, rest, rfl, hplain, fun b hb heq => hscheme (heq ▸ hb)⟩
    · have hdrop : ((value.map character).dropWhile fun c => c ≠ ' ') = [] := by
        exact List.dropWhile_eq_nil_iff.2 <| List.forall_mem_map.2 fun b hb =>
          decide_eq_true (character_ne_space fun heq => hspace (heq ▸ hb))
      simp only [Option.bind_eq_bind, Option.bind_some, plainText?_of_plain hplain] at h
      rw [hdrop] at h
      cases h
  · simp [plainText?_of_not_plain hplain] at h

/-- **The tokens that are found** are those that the first value bears. -/
theorem bearerToken?_eq_some_iff (hvalue : headers.first? .authorization = some value)
    {text : List Char} :
    bearerToken? headers = some text ↔ ∃ token, Bears value token ∧ text = token.map character := by
  constructor
  · intro h
    obtain ⟨scheme, rest, rfl, hplain, hscheme⟩ := exists_split_of_bearerToken? hvalue h
    obtain ⟨token, htoken⟩ := exists_stripped rest
    rw [bearerToken?_of_split hvalue hplain hscheme htoken] at h
    split at h
    · rename_i hboth
      exact ⟨token, ⟨hplain, ⟨scheme, rest, rfl, hboth.1, htoken⟩, hboth.2⟩,
        (Option.some.inj h).symm⟩
    · cases h
  · rintro ⟨token, ⟨hplain, ⟨scheme, rest, rfl, hscheme, hrest⟩, hne⟩, rfl⟩
    rw [bearerToken?_of_split hvalue hplain (ne_space_of_scheme hscheme) hrest]
    exact if_pos ⟨hscheme, hne⟩

/-- What a check says of a token, for the request that came with it. -/
def verdict (c : TokenCheck) (now : UInt64) (token : Bytes) : Except Access.Error Unit :=
  ((c.verify now token).mapError fun fault => Access.Error.invalidToken fault.reason).map
    fun _ => ()

theorem verdict_ne_missingToken (c : TokenCheck) (now : UInt64) (token : Bytes) :
    c.verdict now token ≠ .error .missingToken := by
  rw [verdict]
  cases c.verify now token <;> simp [Except.mapError, Except.map]

end TokenCheck

/-! ## Policies -/

namespace Access

/-- A shared secret is made of the texts that are configured. -/
theorem SharedSecret.of_make {name secret : String} {shared : SharedSecret}
    (h : make name secret = .ok shared) :
    HeaderName.ofString? name = some shared.header ∧ shared.secret = Bytes.ofString secret := by
  rw [make] at h
  split at h
  · cases hname : HeaderName.ofString? name with
    | none =>
      rw [hname] at h
      cases h
    | some header =>
      rw [hname] at h
      cases h
      exact ⟨rfl, rfl⟩
  · cases h

theorem SharedSecret.check_eq_denied_iff (s : SharedSecret) (headers : Headers) :
    s.check headers = .error .denied ↔ headers.first? s.header ≠ some s.secret := by
  rw [ne_eq, ← s.check_eq_ok_iff, check]
  split <;> simp

namespace Policy

variable {files : Files} {s : Config.Security} {policy : Policy} {now : UInt64} {sent : Sent}
  {headers : Headers}

/-- How a policy comes about. -/
inductive SetUp (files : Files) (s : Config.Security) : Policy → Prop
  /-- Tokens go before everything else. -/
  | tokens {jwt : Config.Jwt} {c : TokenCheck} (hjwt : s.jwt = some jwt)
    (hcheck : TokenCheck.ofConfig files jwt = .ok c) : SetUp files s (.tokens c)
  | secret {secret : String} {shared : SharedSecret} (hjwt : s.jwt = none)
    (hsecret : s.secret = some secret)
    (hname : HeaderName.ofString? s.secretHeader = some shared.header)
    (hshared : shared.secret = Bytes.ofString secret) : SetUp files s (.sharedSecret shared)
  | nothing (hjwt : s.jwt = none) (hsecret : s.secret = none) : SetUp files s .permitAll

theorem setUp_of_ofConfig (h : ofConfig files s = .ok policy) : SetUp files s policy := by
  rw [ofConfig.eq_def] at h
  split at h
  · rename_i jwt hjwt
    split at h
    · rename_i c hcheck
      cases h
      exact .tokens hjwt hcheck
    · cases h
  · rename_i secret hjwt hsecret
    cases hmake : SharedSecret.make s.secretHeader secret with
    | error e =>
      rw [hmake] at h
      cases h
    | ok shared =>
      rw [hmake] at h
      cases h
      obtain ⟨hname, hshared⟩ := SharedSecret.of_make hmake
      exact .secret hjwt hsecret hname hshared
  · rename_i hjwt hsecret
    cases h
    exact .nothing hjwt hsecret

theorem SetUp.exists_tokens (h : SetUp files s policy) {jwt : Config.Jwt}
    (hjwt : s.jwt = some jwt) :
    ∃ c, TokenCheck.ofConfig files jwt = .ok c ∧ policy = .tokens c := by
  cases h with
  | tokens hother hcheck =>
    obtain rfl := Option.some.inj (hjwt.symm.trans hother)
    exact ⟨_, hcheck, rfl⟩
  | secret hnone | nothing hnone => cases hjwt.symm.trans hnone

theorem SetUp.exists_secret (h : SetUp files s policy) (hjwt : s.jwt = none) {secret : String}
    (hsecret : s.secret = some secret) :
    ∃ shared, HeaderName.ofString? s.secretHeader = some shared.header ∧
      shared.secret = Bytes.ofString secret ∧ policy = .sharedSecret shared := by
  cases h with
  | tokens hsome => cases hjwt.symm.trans hsome
  | secret _ hother hname hshared =>
    obtain rfl := Option.some.inj (hsecret.symm.trans hother)
    exact ⟨_, hname, hshared, rfl⟩
  | nothing _ hnone => cases hsecret.symm.trans hnone

/-- Two fields decide, with their first values. -/
theorem SetUp.check_congr (h : SetUp files s policy) {others : Headers}
    (htoken : headers.first? .authorization = others.first? .authorization)
    (hsecret : ∀ name, HeaderName.ofString? s.secretHeader = some name →
      headers.first? name = others.first? name) :
    policy.check now headers = policy.check now others := by
  cases h with
  | tokens => simp [check, TokenCheck.check, TokenCheck.bearerToken?, htoken]
  | @secret _ shared _ _ hname =>
    have hsame : shared.presented headers = shared.presented others := by
      simp [SharedSecret.presented, hsecret _ hname]
    rw [check, check, SharedSecret.check, SharedSecret.check, hsame]
  | nothing => rfl

theorem authorization_name : HeaderName.ofString? "authorization" = some .authorization := by
  decide +kernel

/-- With tokens, a request is told that its token is missing unless its first value bears one. -/
theorem check_tokens_of_not_bears {c : TokenCheck} (hsent : sent.ReadAs headers)
    (h : ¬ ∃ value token, sent.first? "authorization" = some value ∧ Bears value token) :
    (Policy.tokens c).check now headers = .error .missingToken := by
  have hnone : TokenCheck.bearerToken? headers = none := by
    rw [Option.eq_none_iff_forall_ne_some]
    intro text htext
    cases hfirst : headers.first? .authorization with
    | none => simp [TokenCheck.bearerToken?, hfirst] at htext
    | some value =>
      obtain ⟨token, hbears, -⟩ := (TokenCheck.bearerToken?_eq_some_iff hfirst).1 htext
      exact h ⟨value, token, hsent.first? authorization_name ▸ hfirst, hbears⟩
  rw [check, TokenCheck.check, hnone]
  rfl

/-- The token that the first value bears is left to the check. -/
theorem check_tokens_of_bears {c : TokenCheck} (hsent : sent.ReadAs headers) {value token : Bytes}
    (hvalue : sent.first? "authorization" = some value) (hbears : Bears value token) :
    (Policy.tokens c).check now headers = c.verdict now token := by
  have hfirst : headers.first? .authorization = some value :=
    (hsent.first? authorization_name).trans hvalue
  rw [check, TokenCheck.check, (TokenCheck.bearerToken?_eq_some_iff hfirst).2 ⟨token, hbears, rfl⟩]
  dsimp only
  rw [ofString_map_character hbears.plain_token, TokenCheck.verdict]

/-- **What a policy makes of a request**, in terms of the fields that were sent. -/
structure Admits (files : Files) (s : Config.Security) (policy : Policy) (now : UInt64)
    (sent : Sent) (headers : Headers) : Prop where
  /-- With tokens, whatever else is configured, a request is told that it has none unless the first
  value bears one, -/
  missing : ∀ jwt, s.jwt = some jwt → (policy.check now headers = .error .missingToken ↔
    ¬ ∃ value token, sent.first? "authorization" = some value ∧ Bears value token)
  /-- and the token that it bears is left to the check that is configured. -/
  verdict : ∀ jwt, s.jwt = some jwt → ∃ c, TokenCheck.ofConfig files jwt = .ok c ∧
    ∀ value token, sent.first? "authorization" = some value → Bears value token →
      policy.check now headers = c.verdict now token
  /-- With a secret alone, a request is admitted if the first value is the secret, -/
  admitted : s.jwt = none → ∀ secret, s.secret = some secret → (policy.check now headers = .ok () ↔
    sent.first? s.secretHeader = some (Bytes.ofString secret))
  /-- and denied if it is anything else, or if there is none. -/
  denied : s.jwt = none → ∀ secret, s.secret = some secret →
    (policy.check now headers = .error .denied ↔
      sent.first? s.secretHeader ≠ some (Bytes.ofString secret))
  /-- With neither, every request is admitted, -/
  unguarded : s.jwt = none → s.secret = none → policy.check now headers = .ok ()
  /-- and only then is one without credentials. -/
  guarded : sent.first? "authorization" = none → sent.first? s.secretHeader = none →
    policy.check now headers = .ok () → s.jwt = none ∧ s.secret = none
  /-- Without a value that comes behind another one of its name, the outcome is the same. -/
  repeated : ∀ before field after fewer, sent = before ++ field :: after →
    (∃ earlier ∈ before, HeaderName.SameSpelling earlier.1 field.1) →
    Sent.ReadAs (before ++ after) fewer → policy.check now fewer = policy.check now headers

/-- **A policy admits the right credentials and no others**, at every time and whatever the fields
of a request. -/
theorem check_admits (h : ofConfig files s = .ok policy) (now : UInt64)
    (hsent : sent.ReadAs headers) : Admits files s policy now sent headers := by
  have hsetUp := setUp_of_ofConfig h
  have hrepeated : ∀ before field after fewer, sent = before ++ field :: after →
      (∃ earlier ∈ before, HeaderName.SameSpelling earlier.1 field.1) →
      Sent.ReadAs (before ++ after) fewer → policy.check now fewer = policy.check now headers := by
    rintro before field after fewer rfl hearlier hfewer
    have hsame : ∀ {text name}, HeaderName.ofString? text = some name →
        fewer.first? name = headers.first? name := by
      intro text name hname
      rw [hfewer.first? hname, hsent.first? hname, Sent.first?_append_repeated hearlier]
    exact hsetUp.check_congr (hsame authorization_name) fun _ => hsame
  refine ⟨?_, ?_, ?_, ?_, ?_, ?_, hrepeated⟩
  · intro jwt hjwt
    obtain ⟨c, -, rfl⟩ := hsetUp.exists_tokens hjwt
    refine ⟨?_, check_tokens_of_not_bears hsent⟩
    rintro hmissing ⟨value, token, hvalue, hbears⟩
    rw [check_tokens_of_bears hsent hvalue hbears] at hmissing
    exact c.verdict_ne_missingToken now token hmissing
  · intro jwt hjwt
    obtain ⟨c, hcheck, rfl⟩ := hsetUp.exists_tokens hjwt
    exact ⟨c, hcheck, fun value token => check_tokens_of_bears hsent⟩
  · intro hjwt secret hsecret
    obtain ⟨shared, hname, hshared, rfl⟩ := hsetUp.exists_secret hjwt hsecret
    rw [check, shared.check_eq_ok_iff, hsent.first? hname, hshared]
  · intro hjwt secret hsecret
    obtain ⟨shared, hname, hshared, rfl⟩ := hsetUp.exists_secret hjwt hsecret
    rw [check, shared.check_eq_denied_iff, hsent.first? hname, hshared]
  · intro hjwt hsecret
    cases hsetUp with
    | tokens hsome => cases hjwt.symm.trans hsome
    | secret _ hsome => cases hsecret.symm.trans hsome
    | nothing => rfl
  · intro htoken hfield hok
    cases hsetUp with
    | tokens =>
      rw [check_tokens_of_not_bears hsent (by simp [htoken])] at hok
      cases hok
    | secret _ _ hname =>
      rw [check, SharedSecret.check_eq_ok_iff, hsent.first? hname, hfield] at hok
      cases hok
    | nothing hjwt hsecret => exact ⟨hjwt, hsecret⟩

/-- A secret that is passed over because there are tokens. -/
def bothSecrets : Config.Security :=
  { secret := some "letmein", jwt := some { secret := some "s" } }

/-- Fields with two tokens in odd spelling, and the secret. -/
def oddlySpelled : Sent :=
  [("X-Auth-Token", Bytes.ofString "letmein"), ("AUTHORIZATION", Bytes.ofString "bEaReR \t a.b.c "),
    ("authorization", Bytes.ofString "Bearer d.e.f")]

/-- Only the first token counts, and the secret does not. -/
theorem check_admits_spelled :
    let files : Files := ⟨fun _ => .error .missing⟩
    let headers : Headers := [(⟨"x-auth-token"⟩, Bytes.ofString "letmein"),
      (.authorization, Bytes.ofString "bEaReR \t a.b.c "),
      (.authorization, Bytes.ofString "Bearer d.e.f")]
    ∃ (policy : Policy) (c : TokenCheck), ofConfig files bothSecrets = .ok policy ∧
      oddlySpelled.ReadAs headers ∧
      Bears (Bytes.ofString "bEaReR \t a.b.c ") (Bytes.ofString "a.b.c") ∧
      policy.check 0 headers = c.verdict 0 (Bytes.ofString "a.b.c") := by
  intro files headers
  obtain ⟨policy, hpolicy⟩ : ∃ policy, ofConfig files bothSecrets = .ok policy := ⟨_, rfl⟩
  have hsent : oddlySpelled.ReadAs headers :=
    .cons ⟨by decide +kernel, rfl⟩ <| .cons ⟨by decide +kernel, rfl⟩ <|
      .cons ⟨by decide +kernel, rfl⟩ .nil
  have hbears : Bears (Bytes.ofString "bEaReR \t a.b.c ") (Bytes.ofString "a.b.c") := by
    have hstripped : Stripped (Bytes.ofString "\t a.b.c ") (Bytes.ofString "a.b.c") :=
      ⟨⟨[0x09, 0x20], [0x20], by decide +kernel, by decide +kernel, by decide +kernel⟩,
        by decide +kernel, by decide +kernel⟩
    exact ⟨by decide +kernel,
      ⟨Bytes.ofString "bEaReR", _, by decide +kernel, by decide +kernel, hstripped⟩,
      by decide +kernel⟩
  obtain ⟨c, -, hverdict⟩ := (check_admits hpolicy 0 hsent).verdict _ rfl
  exact ⟨policy, c, hpolicy, hsent, hbears, hverdict _ _ (by decide +kernel) hbears⟩

end Policy
end Access
end PollTunnel
