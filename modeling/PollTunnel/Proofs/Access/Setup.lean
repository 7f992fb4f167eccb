import PollTunnel.Proofs.Access.Soundness
import PollTunnel.Proofs.Startup.Rules

/-!
# Token checks that can be set up

The rules of a token check and its setup decide apart from each other whether a configuration is
good, over the same values: the list of algorithms, the secret, the location of a public key.  The
rules ask whether a file exists, and want one key; setup reads the file, and lets it go before a
secret.

Both are brought to the same form, an algorithm and what it is given for a key: `Config.Jwt.HasKey`
for the rules, `Provides` for setup (`exists_ofConfig_iff`).  What the two have in common is then
read off (`SetupAgrees`), and also that no algorithm ever gets a key of another kind: a public key
is never taken for a shared secret.
-/

set_option autoImplicit false

namespace PollTunnel

/-- What comes after a step that went well. -/
theorem ok_bind {ε α β : Type} (a : α) (f : α → Except ε β) : (Except.ok a >>= f) = f a := rfl

namespace TokenCheck

variable {files : Files} {fileExists : String → Bool} {j : Config.Jwt} {algorithm : Algorithm}

/-! ## Algorithms -/

/-- Setup settles on the algorithm that the rules look at, -/
theorem singleAlgorithm_of_algorithm? (h : j.algorithm? = some algorithm) :
    singleAlgorithm j.algorithms = .ok algorithm := by
  rw [Config.Jwt.algorithm?.eq_def] at h
  split at h
  · rename_i name hnames
    rw [hnames, singleAlgorithm, h]
  · cases h

/-- and the rules look at the one that is named. -/
theorem algorithm?_of_names (h : j.algorithms = [algorithm.name]) :
    j.algorithm? = some algorithm := by
  rw [Config.Jwt.algorithm?.eq_def, h]
  exact Algorithm.ofName?_name algorithm

/-! ## Keys -/

/-- The octets of the public key of a family that a file holds. -/
def keyIn? (family : Algorithm.Family) (file : Bytes) : Option Bytes :=
  (Pem.read? file).bind (Key.inBlock? family)

theorem published?_eq (family : Algorithm.Family) (file : Bytes) :
    Key.published? family file = (keyIn? family file).map .published := by
  rw [Key.published?, keyIn?]
  cases Pem.read? file with
  | none => rfl
  | some block => cases hoctets : Key.inBlock? family block <;> simp [hoctets]

/-- A public key is read for all algorithms but those with shared secrets, and it is of their
family. -/
theorem publicFamily?_eq (algorithm : Algorithm) :
    publicFamily? algorithm = if algorithm.isHmac then none else some algorithm.family := by
  cases algorithm <;> rfl

/-- A secret is taken for the algorithms with shared secrets. -/
theorem takesSecret_eq (algorithm : Algorithm) : takesSecret algorithm = algorithm.isHmac := by
  cases algorithm <;> rfl

/-- A file gives a key of its family, and to algorithms with public keys alone. -/
theorem publicKey_eq_ok_iff {location : String} {key : Key} :
    publicKey files location algorithm = .ok key ↔ algorithm.isHmac = false ∧
      ∃ file octets, files.read location = .ok file ∧
        keyIn? algorithm.family file = some octets ∧ key = .published octets := by
  rw [publicKey]
  cases hread : files.read location with
  | error cause => simp
  | ok file =>
    rw [publicFamily?_eq]
    cases hfits : algorithm.isHmac with
    | true => simp
    | false =>
      simp only [Bool.false_eq_true, if_false, published?_eq]
      cases hkey : keyIn? algorithm.family file <;> simp [hkey, eq_comm]

/-- What an algorithm is given for a key. -/
inductive Provides (files : Files) (j : Config.Jwt) (algorithm : Algorithm) : Key → Prop
  | secret (secret : String) (hlocation : j.publicKeyLocation = none)
      (hsecret : j.secret = some secret) (hfits : algorithm.isHmac = true) :
      Provides files j algorithm (.shared (Bytes.ofString secret))
  /-- With a file, it does not matter whether there is a secret. -/
  | file (location : String) (file octets : Bytes) (hlocation : j.publicKeyLocation = some location)
      (hread : files.read location = .ok file) (hkey : keyIn? algorithm.family file = some octets)
      (hfits : algorithm.isHmac = false) : Provides files j algorithm (.published octets)

theorem configuredKey_eq_ok_iff {key : Key} :
    configuredKey files j algorithm = .ok key ↔ Provides files j algorithm key := by
  constructor
  · intro h
    rw [configuredKey.eq_def] at h
    split at h
    · rename_i location hlocation
      obtain ⟨hfits, file, octets, hread, hkey, rfl⟩ := publicKey_eq_ok_iff.1 h
      exact .file location file octets hlocation hread hkey hfits
    · rename_i secret hlocation hsecret
      split at h
      · rename_i hfits
        obtain rfl := Except.ok.inj h
        exact .secret secret hlocation hsecret (takesSecret_eq algorithm ▸ hfits)
      · cases h
    · cases h
  · intro h
    cases h with
    | secret secret hlocation hsecret hfits =>
      rw [configuredKey, hlocation, hsecret]
      exact if_pos ((takesSecret_eq algorithm).trans hfits)
    | file location file octets hlocation hread hkey hfits =>
      rw [configuredKey, hlocation]
      exact publicKey_eq_ok_iff.2 ⟨hfits, file, octets, hread, hkey, rfl⟩

/-! ## Setup as a whole -/

/-- With an algorithm and a key for it, setup succeeds. -/
theorem exists_ofConfig_of_provides {key : Key} (halgorithm : j.algorithm? = some algorithm)
    (hkey : Provides files j algorithm key) :
    ∃ c, ofConfig files j = .ok c ∧ c.algorithm = algorithm ∧ c.key = key := by
  rw [ofConfig, singleAlgorithm_of_algorithm? halgorithm, ok_bind, configuredKey_eq_ok_iff.2 hkey,
    ok_bind]
  exact ⟨_, rfl, rfl, rfl⟩

/-- If setup succeeds, there were an algorithm and a key for it. -/
theorem provides_of_ofConfig {c : TokenCheck} (h : ofConfig files j = .ok c) :
    j.algorithm? = some c.algorithm ∧ Provides files j c.algorithm c.key := by
  obtain ⟨hnames, hkey, -⟩ := ofConfig_eq_ok h
  exact ⟨algorithm?_of_names hnames, configuredKey_eq_ok_iff.1 hkey⟩

/-- **When a token check can be set up.** -/
theorem exists_ofConfig_iff : (∃ c, ofConfig files j = .ok c) ↔
    ∃ algorithm key, j.algorithm? = some algorithm ∧ Provides files j algorithm key := by
  constructor
  · rintro ⟨c, h⟩
    exact ⟨c.algorithm, c.key, provides_of_ofConfig h⟩
  · rintro ⟨algorithm, key, halgorithm, hkey⟩
    obtain ⟨c, h, -⟩ := exists_ofConfig_of_provides halgorithm hkey
    exact ⟨c, h⟩

/-- Without a file, the rules ask for what setup needs. -/
theorem problems_eq_nil_iff_exists_ofConfig (h : j.publicKeyLocation = none) :
    j.problems fileExists = [] ↔ ∃ c, ofConfig files j = .ok c := by
  rw [Config.Jwt.problems_eq_nil_iff, exists_ofConfig_iff]
  constructor
  · rintro ⟨algorithm, halgorithm, ⟨secret, hsecret, -, hfits⟩ | ⟨location, -, hlocation, -⟩⟩
    · exact ⟨algorithm, _, halgorithm, .secret secret h hsecret hfits⟩
    · rw [h] at hlocation
      cases hlocation
  · rintro ⟨algorithm, _, halgorithm, ⟨secret, -, hsecret, hfits⟩ | ⟨location, _, _, hlocation⟩⟩
    · exact ⟨algorithm, halgorithm, .secret secret hsecret h hfits⟩
    · rw [h] at hlocation
      cases hlocation

/-- A token check without problems can be set up with its secret. -/
theorem exists_ofConfig (files : Files) (hvalid : j.problems fileExists = [])
    (hsecret : j.secret ≠ none) : ∃ c, ofConfig files j = .ok c := by
  obtain ⟨algorithm, -, hkey⟩ := Config.Jwt.problems_eq_nil_iff.1 hvalid
  cases hkey with
  | file _ hnone => exact absurd hnone hsecret
  | secret _ _ hlocation => exact (problems_eq_nil_iff_exists_ofConfig hlocation).1 hvalid

/-- With a file that holds a key of the family, what passes the rules can be set up. -/
theorem exists_ofConfig_of_file {location : String} {file octets : Bytes}
    (hvalid : j.problems fileExists = []) (hlocation : j.publicKeyLocation = some location)
    (halgorithm : j.algorithm? = some algorithm) (hread : files.read location = .ok file)
    (hkey : keyIn? algorithm.family file = some octets) :
    ∃ c, ofConfig files j = .ok c ∧ c.algorithm = algorithm ∧ c.key = .published octets := by
  obtain ⟨other, hother, hhas⟩ := Config.Jwt.problems_eq_nil_iff.1 hvalid
  obtain rfl : algorithm = other := Option.some.inj (halgorithm.symm.trans hother)
  cases hhas with
  | secret _ _ hnone =>
    rw [hlocation] at hnone
    cases hnone
  | file _ _ _ _ hfits =>
    exact exists_ofConfig_of_provides halgorithm
      (.file location file octets hlocation hread hkey hfits)

/-! ## Rules and setup -/

/-- A key was made from the secret of a configuration. -/
def FromSecret (j : Config.Jwt) (key : Key) : Prop :=
  ∃ secret, j.secret = some secret ∧ key = .shared (Bytes.ofString secret)

/-- A key was made from the file of a configuration, as a key of a family. -/
def FromFile (files : Files) (j : Config.Jwt) (family : Algorithm.Family) (key : Key) : Prop :=
  ∃ location file octets, j.publicKeyLocation = some location ∧ files.read location = .ok file ∧
    keyIn? family file = some octets ∧ key = .published octets

/-- A shared secret goes with the algorithms that need one, a file with all others. -/
theorem Provides.fits {key : Key} (h : Provides files j algorithm key) :
    (algorithm.isHmac = true ↔ FromSecret j key) ∧
      (algorithm.isHmac = false ↔ FromFile files j algorithm.family key) := by
  cases h with
  | secret secret hlocation hsecret hfits =>
    refine ⟨iff_of_true hfits ⟨secret, hsecret, rfl⟩, iff_of_false (by simp [hfits]) ?_⟩
    rintro ⟨location, _, _, hsome, -⟩
    rw [hlocation] at hsome
    cases hsome
  | file location file octets hlocation hread hkey hfits =>
    refine ⟨iff_of_false (by simp [hfits]) ?_,
      iff_of_true hfits ⟨location, file, octets, hlocation, hread, hkey, rfl⟩⟩
    rintro ⟨secret, -, hshared⟩
    cases hshared

/-- **Rules and setup agree about a token check.** -/
structure SetupAgrees (files : Files) (fileExists : String → Bool) (j : Config.Jwt) : Prop where
  /-- Without a file, what passes the rules is what can be set up. -/
  withoutFile : j.publicKeyLocation = none →
    (j.problems fileExists = [] ↔ ∃ c, ofConfig files j = .ok c)
  /-- With a file, what passes the rules can be set up if the file holds a key of the family. -/
  withFile : ∀ location algorithm file octets, j.publicKeyLocation = some location →
    j.problems fileExists = [] → j.algorithm? = some algorithm → files.read location = .ok file →
    keyIn? algorithm.family file = some octets →
    ∃ c, ofConfig files j = .ok c ∧ c.algorithm = algorithm ∧ c.key = .published octets
  /-- What is set up has the one algorithm that is configured, -/
  single : ∀ c, ofConfig files j = .ok c → j.algorithms = [c.algorithm.name]
  /-- and its key is a shared secret just if the algorithm is to be used with one. -/
  unconfused : ∀ c, ofConfig files j = .ok c →
    (c.algorithm.isHmac = true ↔ FromSecret j c.key) ∧
      (c.algorithm.isHmac = false ↔ FromFile files j c.algorithm.family c.key)

/-- **Rules and setup agree**, whatever algorithms, secret and file a configuration names. -/
theorem setup_agrees (files : Files) (fileExists : String → Bool) (j : Config.Jwt) :
    SetupAgrees files fileExists j where
  withoutFile := problems_eq_nil_iff_exists_ofConfig
  withFile := by
    intro location algorithm file octets hlocation hvalid halgorithm hread hkey
    exact exists_ofConfig_of_file hvalid hlocation halgorithm hread hkey
  single := fun _ h => (ofConfig_eq_ok h).1
  unconfused := fun _ h => (provides_of_ofConfig h).2.fits

/-- A key for signatures on the twisted curve, in armour. -/
def publishedFile : Bytes :=
  Bytes.ofString ("-----BEGIN PUBLIC KEY-----\n" ++
    "MCowBQYDK2VwAyEAGb9ECWmEzf6FQbrBZ9w7lshQhqowtrbLDFw4rXAxZuE=\n" ++
    "-----END PUBLIC KEY-----\n")

/-- A secret with an algorithm that needs one and with one that does not, and a file. -/
theorem setup_agrees_three :
    let files : Files := ⟨fun path =>
      if path = Bytes.ofString "key.pem" then .ok (.file publishedFile) else .error .missing⟩
    let shared : Config.Jwt := { secret := some "s", algorithms := ["HS512"] }
    let unfit : Config.Jwt := { secret := some "s", algorithms := ["RS256"] }
    let published : Config.Jwt := { publicKeyLocation := some "key.pem", algorithms := ["EdDSA"] }
    (∃ c, ofConfig files shared = .ok c ∧ shared.algorithms = [c.algorithm.name] ∧
        FromSecret shared c.key) ∧
      (¬ ∃ c, ofConfig files unfit = .ok c) ∧
      ∃ c, ofConfig files published = .ok c ∧ FromFile files published .edwards c.key := by
  intro files shared unfit published
  have hshared := setup_agrees files files.contains shared
  have hpublished := setup_agrees files files.contains published
  refine ⟨?_, fun hset => ?_, ?_⟩
  · obtain ⟨c, hc⟩ := (hshared.withoutFile rfl).1 (by decide +kernel)
    have hsingle := hshared.single c hc
    have hname : "HS512" = c.algorithm.name := (List.cons.inj hsingle).1
    have hhmac : c.algorithm.isHmac = true := by
      revert hname
      cases c.algorithm <;> decide
    exact ⟨c, hc, hsingle, (hshared.unconfused c hc).1.1 hhmac⟩
  · have hnil := ((setup_agrees files files.contains unfit).withoutFile rfl).2 hset
    exact absurd hnil (by decide +kernel)
  · obtain ⟨octets, hkey⟩ : ∃ octets, keyIn? .edwards publishedFile = some octets :=
      Option.isSome_iff_exists.1 (by decide +kernel)
    obtain ⟨c, hc, halgorithm, -⟩ := hpublished.withFile "key.pem" .edDsa publishedFile octets rfl
      (by decide +kernel) (by decide +kernel) rfl hkey
    have hfile := (hpublished.unconfused c hc).2.1 (by rw [halgorithm]; rfl)
    rw [halgorithm] at hfile
    exact ⟨c, hc, hfile⟩

end TokenCheck
end PollTunnel
