import PollTunnel.Config.Validation

/-!
# Every broken rule is told, once

A configuration is checked against sixteen rules.  They stand in a fixed order, section by section
(`Rule.all`), and `Violates` says for each what breaks it and what is told of it then.  Checking
does not stop at the first broken rule: it goes through all of them, and what it tells is listed
rule by rule (`Listed`).

* `Violates`, `Jwt.Violates` — the only ways to break a rule, each with its problem.
* `Listed` — a rule that is kept leaves no problem, and one that is broken leaves exactly one.
* `listed_problems` — the problems of a configuration are listed in this way.
* `problems_reported` — what follows for the problems as a whole, for those of one section, and for
  a token check.

Few rules get in each other's way.  Where there is not a single algorithm there is no name to know,
and only a known algorithm can be at odds with the key; likewise a missing key, two keys at once and
a file that is not there exclude each other.  All else can be wrong at the same time, and is told at
the same time.
-/

set_option autoImplicit false

namespace PollTunnel
namespace Config

/-! ## Problems, rule by rule -/

/-- What a configuration is asked. -/
inductive Rule where
  | bindAddress | path | targetPort | longPoll | disconnect | bodySize
  | remoteUrl
  | secret | algorithmCount | algorithmName | keyMissing | keyConflict | keyFile | keyKind
  | logLevel | metricsAddress
  deriving DecidableEq

/-- The sections that have rules. -/
inductive Section where
  | server
  | client
  | security
  | observability
  deriving DecidableEq

/-- The rules of a token check, in order. -/
def Rule.ofTokens : List Rule :=
  [.algorithmCount, .algorithmName, .keyMissing, .keyConflict, .keyFile, .keyKind]

/-- The rules of a section, in order. -/
def Section.rules : Section → List Rule
  | .server => [.bindAddress, .path, .targetPort, .longPoll, .disconnect, .bodySize]
  | .client => [.remoteUrl]
  | .security => .secret :: Rule.ofTokens
  | .observability => [.logLevel, .metricsAddress]

/-- All sections, in order. -/
def Section.all : List Section := [.server, .client, .security, .observability]

/-- All rules, in order. -/
def Rule.all : List Rule := Section.all.flatMap Section.rules

/-- The section that a rule is about. -/
def Rule.part : Rule → Section
  | .bindAddress | .path | .targetPort | .longPoll | .disconnect | .bodySize => .server
  | .remoteUrl => .client
  | .secret | .algorithmCount | .algorithmName | .keyMissing | .keyConflict | .keyFile
  | .keyKind => .security
  | .logLevel | .metricsAddress => .observability

/-- The rule that a problem is about. -/
def Problem.rule : Problem → Rule
  | .invalidBindAddress _ => .bindAddress
  | .invalidPath _ => .path
  | .invalidTargetPort => .targetPort
  | .nonPositiveTimeout field =>
    if field = "server.long_poll_timeout_ms" then .longPoll else .disconnect
  | .invalidMaxBodySize => .bodySize
  | .invalidRemoteUrl _ => .remoteUrl
  | .emptySecret => .secret
  | .algorithmCount => .algorithmCount
  | .unknownAlgorithm _ => .algorithmName
  | .missingKey => .keyMissing
  | .conflictingKeys => .keyConflict
  | .publicKeyNotFound _ => .keyFile
  | .algorithmKeyMismatch _ => .keyKind
  | .invalidLogLevel _ => .logLevel
  | .invalidMetricsAddress _ => .metricsAddress

theorem part_of_mem_rules {part : Section} : ∀ rule ∈ part.rules, rule.part = part := by
  cases part <;> decide

theorem mem_all (rule : Rule) : rule ∈ Rule.all := by
  cases rule <;> decide

/-- What is told of rules, one after another: nothing of a rule that is kept, and one problem of a
rule that is broken. -/
inductive Listed (Broken : Rule → Problem → Prop) : List Rule → List Problem → Prop where
  | nil : Listed Broken [] []
  | kept {rule : Rule} {rules : List Rule} {problems : List Problem}
      (h : ∀ problem, ¬ Broken rule problem) (rest : Listed Broken rules problems) :
      Listed Broken (rule :: rules) problems
  | broken {rule : Rule} {problem : Problem} {rules : List Rule} {problems : List Problem}
      (h : Broken rule problem) (rest : Listed Broken rules problems) :
      Listed Broken (rule :: rules) (problem :: problems)

namespace Listed

variable {Broken : Rule → Problem → Prop} {rule : Rule} {rules : List Rule} {problem : Problem}
  {problems : List Problem}

theorem append {moreRules : List Rule} {more : List Problem} (h : Listed Broken rules problems)
    (hmore : Listed Broken moreRules more) :
    Listed Broken (rules ++ moreRules) (problems ++ more) := by
  induction h with
  | nil => exact hmore
  | kept hkept _ ih => exact .kept hkept ih
  | broken hbroken _ ih => exact .broken hbroken ih

theorem nil_of_kept (h : ∀ rule ∈ rules, ∀ problem, ¬ Broken rule problem) :
    Listed Broken rules [] := by
  induction rules with
  | nil => exact .nil
  | cons rule rules ih =>
    rw [List.forall_mem_cons] at h
    exact .kept h.1 (ih h.2)

/-- One rule, by the test that is made for it. -/
theorem of_test {test : Bool} {condition : Prop} (htest : test = true ↔ condition)
    (hbroken : condition → Broken rule problem)
    (honly : ∀ other, Broken rule other → condition ∧ other = problem) :
    Listed Broken [rule] (report test problem) := by
  cases test with
  | false => exact .kept (fun other hother => nomatch htest.2 (honly other hother).1) .nil
  | true => exact .broken (hbroken (htest.1 rfl)) .nil

theorem congr {Other : Rule → Problem → Prop} (h : Listed Broken rules problems)
    (hiff : ∀ rule ∈ rules, ∀ problem, Broken rule problem ↔ Other rule problem) :
    Listed Other rules problems := by
  induction h with
  | nil => exact .nil
  | kept hkept _ ih =>
    rw [List.forall_mem_cons] at hiff
    exact .kept (fun problem hother => hkept problem ((hiff.1 problem).2 hother)) (ih hiff.2)
  | broken hbroken _ ih =>
    rw [List.forall_mem_cons] at hiff
    exact .broken ((hiff.1 _).1 hbroken) (ih hiff.2)

/-- Nothing else is told. -/
theorem exists_rule (h : Listed Broken rules problems) (hproblem : problem ∈ problems) :
    ∃ rule ∈ rules, Broken rule problem := by
  induction h with
  | nil => cases hproblem
  | kept _ _ ih =>
    obtain ⟨rule, hrule, hbroken⟩ := ih hproblem
    exact ⟨rule, List.mem_cons_of_mem _ hrule, hbroken⟩
  | broken hbroken _ ih =>
    rcases List.mem_cons.1 hproblem with rfl | hproblem
    · exact ⟨_, List.mem_cons_self, hbroken⟩
    · obtain ⟨rule, hrule, hbroken⟩ := ih hproblem
      exact ⟨rule, List.mem_cons_of_mem _ hrule, hbroken⟩

/-- No broken rule is passed over. -/
theorem exists_problem (h : Listed Broken rules problems) (hrule : rule ∈ rules)
    (hbroken : Broken rule problem) : ∃ told ∈ problems, Broken rule told := by
  induction h with
  | nil => cases hrule
  | kept hkept _ ih =>
    rcases List.mem_cons.1 hrule with rfl | hrule
    · exact absurd hbroken (hkept problem)
    · exact ih hrule
  | broken hother _ ih =>
    rcases List.mem_cons.1 hrule with rfl | hrule
    · exact ⟨_, List.mem_cons_self, hother⟩
    · obtain ⟨told, htold, hbroken⟩ := ih hrule
      exact ⟨told, List.mem_cons_of_mem _ htold, hbroken⟩

/-- The problems are about rules in their order, and no two about the same. -/
theorem map_rule_sublist (h : Listed Broken rules problems)
    (hrule : ∀ rule problem, Broken rule problem → problem.rule = rule) :
    (problems.map Problem.rule).Sublist rules := by
  induction h with
  | nil => exact .slnil
  | kept _ _ ih => exact ih.cons _
  | broken hbroken _ ih =>
    rw [List.map_cons, hrule _ _ hbroken]
    exact ih.cons_cons _

end Listed

/-! ## What breaks a rule -/

/-- `s.Violates rule problem` — the server section breaks the rule, and this is the problem. -/
inductive Server.Violates (s : Server) : Rule → Problem → Prop where
  | bindAddress (h : ∀ address, SocketAddress.ofString? s.bindAddress ≠ some address) :
    Violates s .bindAddress (.invalidBindAddress s.bindAddress)
  | path (h : ∀ rest, s.path.toList ≠ '/' :: rest) : Violates s .path (.invalidPath s.path)
  | targetPort (h : s.targetPort = 0) : Violates s .targetPort .invalidTargetPort
  | longPoll (h : s.longPollMillis = 0) :
    Violates s .longPoll (.nonPositiveTimeout "server.long_poll_timeout_ms")
  | disconnect (h : s.disconnectMillis = 0) :
    Violates s .disconnect (.nonPositiveTimeout "server.disconnect_timeout_ms")
  | bodySize (h : s.maxBodySize = 0) : Violates s .bodySize .invalidMaxBodySize

/-- `c.Violates rule problem` — the client section breaks the rule, and this is the problem. -/
inductive Client.Violates (c : Client) : Rule → Problem → Prop where
  | remoteUrl (h : ∀ url, Url.parse? c.remoteUrl = some url → url.scheme ≠ "http") :
    Violates c .remoteUrl (.invalidRemoteUrl c.remoteUrl)

/-- Just one key is configured, and it is not of the kind that an algorithm needs. -/
def Jwt.Mismatches (j : Jwt) (algorithm : Algorithm) : Prop :=
  j.secret.isSome ≠ j.publicKeyLocation.isSome ∧ algorithm.isHmac ≠ j.secret.isSome

/-- `j.Violates fileExists rule problem` — the token check breaks the rule, and this is the
problem. -/
inductive Jwt.Violates (j : Jwt) (fileExists : String → Bool) : Rule → Problem → Prop where
  | algorithmCount (h : j.algorithms.length ≠ 1) :
    Violates j fileExists .algorithmCount .algorithmCount
  | algorithmName {name : String} (hname : j.algorithms = [name])
    (h : Algorithm.ofName? name = none) :
    Violates j fileExists .algorithmName (.unknownAlgorithm name)
  | keyMissing (hsecret : j.secret = none) (hlocation : j.publicKeyLocation = none) :
    Violates j fileExists .keyMissing .missingKey
  | keyConflict (hsecret : j.secret ≠ none) (hlocation : j.publicKeyLocation ≠ none) :
    Violates j fileExists .keyConflict .conflictingKeys
  | keyFile {location : String} (hsecret : j.secret = none)
    (hlocation : j.publicKeyLocation = some location) (h : fileExists location = false) :
    Violates j fileExists .keyFile (.publicKeyNotFound location)
  | keyKind {name : String} {algorithm : Algorithm} (hname : j.algorithms = [name])
    (hknown : Algorithm.ofName? name = some algorithm) (h : j.Mismatches algorithm) :
    Violates j fileExists .keyKind (.algorithmKeyMismatch name)

/-- `s.Violates fileExists rule problem` — the security section breaks the rule, and this is the
problem. -/
inductive Security.Violates (s : Security) (fileExists : String → Bool) :
    Rule → Problem → Prop where
  | secret (h : s.secret = some "") : Violates s fileExists .secret .emptySecret
  | tokens {jwt : Jwt} {rule : Rule} {problem : Problem} (hjwt : s.jwt = some jwt)
    (h : jwt.Violates fileExists rule problem) : Violates s fileExists rule problem

/-- `o.Violates rule problem` — the observability section breaks the rule, and this is the
problem. -/
inductive Observability.Violates (o : Observability) : Rule → Problem → Prop where
  | logLevel (h : ∀ level, logLevel? o.logLevel ≠ some level) :
    Violates o .logLevel (.invalidLogLevel o.logLevel)
  | metricsAddress (h : ∀ address, SocketAddress.ofString? o.metricsAddress ≠ some address) :
    Violates o .metricsAddress (.invalidMetricsAddress o.metricsAddress)

/-- `c.ViolatesIn fileExists part rule problem` — the rule is broken by that section of the
configuration, and this is the problem. -/
def ViolatesIn (c : Config) (fileExists : String → Bool) : Section → Rule → Problem → Prop
  | .server => c.server.Violates
  | .client => c.client.Violates
  | .security => c.security.Violates fileExists
  | .observability => c.observability.Violates

/-- `c.Violates fileExists rule problem` — the configuration breaks the rule, and this is the
problem. -/
def Violates (c : Config) (fileExists : String → Bool) (rule : Rule) (problem : Problem) : Prop :=
  c.ViolatesIn fileExists rule.part rule problem

variable {c d : Config} {j : Jwt} {fileExists otherExists : String → Bool} {rule : Rule}
  {p q problem : Problem}

/-- One thing is told of a rule that a token check breaks. -/
theorem Jwt.Violates.problem_eq (hp : j.Violates fileExists rule p)
    (hq : j.Violates fileExists rule q) : p = q := by
  cases hp with
  | algorithmCount | keyMissing | keyConflict => cases hq; rfl
  | algorithmName hname _ =>
    cases hq with
    | algorithmName hother _ => rw [List.singleton_inj.1 (hname.symm.trans hother)]
  | keyFile _ hlocation _ =>
    cases hq with
    | keyFile _ hother _ => rw [Option.some.inj (hlocation.symm.trans hother)]
  | keyKind hname _ _ =>
    cases hq with
    | keyKind hother _ _ => rw [List.singleton_inj.1 (hname.symm.trans hother)]

/-- One thing is told of a rule that is broken. -/
theorem ViolatesIn.problem_eq {part : Section} (hp : c.ViolatesIn fileExists part rule p)
    (hq : c.ViolatesIn fileExists part rule q) : p = q := by
  cases part with
  | server | client | observability => cases hp <;> cases hq <;> rfl
  | security =>
    cases hp with
    | secret =>
      cases hq with
      | secret => rfl
      | tokens _ hq => cases hq
    | tokens hjwt hp =>
      cases hq with
      | secret => cases hp
      | tokens hother hq =>
        obtain rfl := Option.some.inj (hjwt.symm.trans hother)
        exact hp.problem_eq hq

theorem ViolatesIn.rule_eq {part : Section} (h : c.ViolatesIn fileExists part rule problem) :
    problem.rule = rule := by
  cases part with
  | server | client | observability => cases h <;> rfl
  | security =>
    cases h with
    | secret => rfl
    | tokens _ h => cases h <;> rfl

/-! ## What is told of a section -/

theorem isSocketAddress_test {s : String} :
    (!isSocketAddress s) = true ↔ ∀ address, SocketAddress.ofString? s ≠ some address := by
  rw [Bool.not_eq_true', isSocketAddress, Option.isSome_eq_false_iff, Option.isNone_iff_eq_none,
    Option.eq_none_iff_forall_ne_some]

theorem path_test {s : String} :
    (s.toList.head? != some '/') = true ↔ ∀ rest, s.toList ≠ '/' :: rest := by
  rw [bne_iff_ne]
  cases s.toList with
  | nil => simp
  | cons first rest => simp

theorem isHttpUrl_test {s : String} :
    (!isHttpUrl s) = true ↔ ∀ url, Url.parse? s = some url → url.scheme ≠ "http" := by
  rw [isHttpUrl]
  cases Url.parse? s with
  | none => simp
  | some url => simp

theorem logLevel_test {s : String} :
    (logLevel? s).isNone = true ↔ ∀ level, logLevel? s ≠ some level := by
  rw [Option.isNone_iff_eq_none, Option.eq_none_iff_forall_ne_some]

theorem listed_server (s : Server) : Listed s.Violates Section.server.rules s.problems := by
  have hbind : Listed s.Violates [.bindAddress] _ :=
    .of_test isSocketAddress_test .bindAddress fun | _, .bindAddress h => ⟨h, rfl⟩
  have hpath : Listed s.Violates [.path] _ :=
    .of_test path_test .path fun | _, .path h => ⟨h, rfl⟩
  have hport : Listed s.Violates [.targetPort] _ :=
    .of_test beq_iff_eq .targetPort fun | _, .targetPort h => ⟨h, rfl⟩
  have hlong : Listed s.Violates [.longPoll] _ :=
    .of_test beq_iff_eq .longPoll fun | _, .longPoll h => ⟨h, rfl⟩
  have hdisconnect : Listed s.Violates [.disconnect] _ :=
    .of_test beq_iff_eq .disconnect fun | _, .disconnect h => ⟨h, rfl⟩
  have hsize : Listed s.Violates [.bodySize] _ :=
    .of_test beq_iff_eq .bodySize fun | _, .bodySize h => ⟨h, rfl⟩
  exact ((((hbind.append hpath).append hport).append hlong).append hdisconnect).append hsize

theorem listed_client (c : Client) : Listed c.Violates Section.client.rules c.problems :=
  .of_test isHttpUrl_test .remoteUrl fun | _, .remoteUrl h => ⟨h, rfl⟩

theorem listed_observability (o : Observability) :
    Listed o.Violates Section.observability.rules o.problems := by
  have hlevel : Listed o.Violates [.logLevel] _ :=
    .of_test logLevel_test .logLevel fun | _, .logLevel h => ⟨h, rfl⟩
  have hmetrics : Listed o.Violates [.metricsAddress] _ :=
    .of_test isSocketAddress_test .metricsAddress fun | _, .metricsAddress h => ⟨h, rfl⟩
  exact hlevel.append hmetrics

/-! ### Token checks -/

theorem listed_algorithmProblems :
    Listed (j.Violates fileExists) [.algorithmCount, .algorithmName] j.algorithmProblems := by
  rw [Jwt.algorithmProblems.eq_def]
  split
  · rename_i name hname
    have hcount : ∀ problem, ¬ j.Violates fileExists .algorithmCount problem
      | _, .algorithmCount h => h (congrArg List.length hname)
    refine .kept hcount (.of_test Option.isNone_iff_eq_none (.algorithmName hname) ?_)
    intro problem hproblem
    cases hproblem with
    | algorithmName hother h =>
      obtain rfl := List.singleton_inj.1 (hname.symm.trans hother)
      exact ⟨h, rfl⟩
  · rename_i hnot
    have hcount : j.algorithms.length ≠ 1 := by
      intro hone
      obtain ⟨name, hname⟩ := List.length_eq_one_iff.1 hone
      exact hnot name hname
    exact .broken (.algorithmCount hcount)
      (.kept (fun | _, .algorithmName hname _ => hnot _ hname) .nil)

theorem Jwt.algorithm?_eq_some_iff {algorithm : Algorithm} : j.algorithm? = some algorithm ↔
    ∃ name, j.algorithms = [name] ∧ Algorithm.ofName? name = some algorithm := by
  rw [Jwt.algorithm?.eq_def]
  split
  · rename_i name hname
    simp [hname]
  · rename_i hnot
    simpa using fun name hname => absurd hname (hnot name)

/-- The algorithm beside the only key, if there is a single one and it is known. -/
theorem listed_mismatch {fits : Algorithm → Bool}
    (hfits : ∀ algorithm, (!fits algorithm) = true ↔ j.Mismatches algorithm) :
    Listed (j.Violates fileExists) [.keyKind] (mismatch j.algorithm? fits) := by
  cases hfound : j.algorithm? with
  | none =>
    refine .kept (fun problem hproblem => ?_) .nil
    cases hproblem with
    | keyKind hname hknown _ =>
      rw [Jwt.algorithm?_eq_some_iff.2 ⟨_, hname, hknown⟩] at hfound
      cases hfound
  | some algorithm =>
    obtain ⟨name, hname, hknown⟩ := Jwt.algorithm?_eq_some_iff.1 hfound
    rw [mismatch, Algorithm.name_of_ofName? hknown]
    refine .of_test (hfits algorithm) (.keyKind hname hknown) fun problem hproblem => ?_
    cases hproblem with
    | keyKind hother hothers h =>
      obtain rfl := List.singleton_inj.1 (hname.symm.trans hother)
      obtain rfl := Option.some.inj (hknown.symm.trans hothers)
      exact ⟨h, rfl⟩

theorem listed_keyProblems :
    Listed (j.Violates fileExists) [.keyMissing, .keyConflict, .keyFile, .keyKind]
      (j.keyProblems fileExists) := by
  rw [Jwt.keyProblems.eq_def]
  split
  · -- no key
    rename_i hsecret hlocation
    refine .broken (.keyMissing hsecret hlocation) (.kept ?_ (.kept ?_ (.kept ?_ .nil)))
    · exact fun | _, .keyConflict h _ => h hsecret
    · exact fun | _, .keyFile _ h _ => nomatch hlocation.symm.trans h
    · exact fun | _, .keyKind _ _ h => h.1 (by rw [hsecret, hlocation])
  · -- two keys
    rename_i secret location hsecret hlocation
    have hconflict : j.Violates fileExists .keyConflict .conflictingKeys :=
      .keyConflict (by simp [hsecret]) (by simp [hlocation])
    refine .kept ?_ (.broken hconflict (.kept ?_ (.kept ?_ .nil)))
    · exact fun | _, .keyMissing h _ => nomatch hsecret.symm.trans h
    · exact fun | _, .keyFile h _ _ => nomatch hsecret.symm.trans h
    · exact fun | _, .keyKind _ _ h => h.1 (by rw [hsecret, hlocation]; rfl)
  · -- a secret: only the algorithm can be at odds with it
    rename_i secret hsecret hlocation
    have hkind : Listed (j.Violates fileExists) [.keyKind]
        (mismatch j.algorithm? goesWithSecret) :=
      listed_mismatch fun algorithm => by
        simp [Jwt.Mismatches, goesWithSecret_eq, hsecret, hlocation]
    refine .kept ?_ (.kept ?_ (.kept ?_ hkind))
    · exact fun | _, .keyMissing h _ => nomatch hsecret.symm.trans h
    · exact fun | _, .keyConflict _ h => h hlocation
    · exact fun | _, .keyFile h _ _ => nomatch hsecret.symm.trans h
  · -- a file: it may be missing, and the algorithm at odds with it
    rename_i location hsecret hlocation
    have hkind : Listed (j.Violates fileExists) [.keyKind]
        (mismatch j.algorithm? (!goesWithSecret ·)) :=
      listed_mismatch fun algorithm => by
        simp [Jwt.Mismatches, goesWithSecret_eq, hsecret, hlocation]
    have htest : (!fileExists location) = true ↔ fileExists location = false := by simp
    have hfile : Listed (j.Violates fileExists) [.keyFile]
        (report (!fileExists location) (.publicKeyNotFound location)) := by
      refine .of_test htest (.keyFile hsecret hlocation) fun problem hproblem => ?_
      cases hproblem with
      | keyFile _ hother h =>
        obtain rfl := Option.some.inj (hlocation.symm.trans hother)
        exact ⟨h, rfl⟩
    refine .kept ?_ (.kept ?_ (hfile.append hkind))
    · exact fun | _, .keyMissing _ h => nomatch hlocation.symm.trans h
    · exact fun | _, .keyConflict h _ => h hsecret

theorem listed_jwt : Listed (j.Violates fileExists) Rule.ofTokens (j.problems fileExists) :=
  listed_algorithmProblems.append listed_keyProblems

theorem violates_tokens_iff {s : Security} (hjwt : s.jwt = some j) (hrule : rule ∈ Rule.ofTokens) :
    s.Violates fileExists rule problem ↔ j.Violates fileExists rule problem := by
  constructor
  · intro h
    cases h with
    | secret => exact absurd hrule (by decide)
    | tokens hother h =>
      obtain rfl := Option.some.inj (hjwt.symm.trans hother)
      exact h
  · exact .tokens hjwt

theorem listed_tokens (s : Security) : Listed (s.Violates fileExists) Rule.ofTokens
    (match s.jwt with
      | some jwt => jwt.problems fileExists
      | none => []) := by
  cases hjwt : s.jwt with
  | some jwt =>
    exact listed_jwt.congr fun rule hrule problem => (violates_tokens_iff hjwt hrule).symm
  | none =>
    refine .nil_of_kept fun rule hrule problem h => ?_
    cases h with
    | secret => exact absurd hrule (by decide)
    | tokens hother _ => cases hjwt.symm.trans hother

theorem listed_security (s : Security) :
    Listed (s.Violates fileExists) Section.security.rules (s.problems fileExists) := by
  have hsecret : Listed (s.Violates fileExists) [.secret] _ :=
    .of_test beq_iff_eq .secret fun | _, .secret h => ⟨h, rfl⟩
  exact hsecret.append (listed_tokens s)

/-! ## The whole configuration -/

/-- What is wrong with a section. -/
def problemsOf (c : Config) (fileExists : String → Bool) : Section → List Problem
  | .server => c.server.problems
  | .client => c.client.problems
  | .security => c.security.problems fileExists
  | .observability => c.observability.problems

/-- What is told of a section's rules. -/
def problemsIn (c : Config) (fileExists : String → Bool) (part : Section) : List Problem :=
  (c.problems fileExists).filter (·.rule.part = part)

theorem problems_eq_flatMap :
    c.problems fileExists = Section.all.flatMap (c.problemsOf fileExists) := by
  simp [problems, Section.all, problemsOf]

theorem listed_problemsOf (part : Section) :
    Listed (c.Violates fileExists) part.rules (c.problemsOf fileExists part) := by
  have hpart : Listed (c.ViolatesIn fileExists part) part.rules (c.problemsOf fileExists part) := by
    cases part with
    | server => exact listed_server c.server
    | client => exact listed_client c.client
    | security => exact listed_security c.security
    | observability => exact listed_observability c.observability
  refine hpart.congr fun rule hrule problem => ?_
  rw [Violates, part_of_mem_rules rule hrule]

/-- All rules are gone through. -/
theorem listed_problems : Listed (c.Violates fileExists) Rule.all (c.problems fileExists) := by
  rw [problems_eq_flatMap, Rule.all]
  induction Section.all with
  | nil => exact .nil
  | cons part rest ih => exact (listed_problemsOf part).append ih

theorem mem_problems_iff :
    problem ∈ c.problems fileExists ↔ ∃ rule, c.Violates fileExists rule problem := by
  constructor
  · intro h
    obtain ⟨rule, -, hbroken⟩ := listed_problems.exists_rule h
    exact ⟨rule, hbroken⟩
  · rintro ⟨rule, hbroken⟩
    obtain ⟨told, htold, hsame⟩ := listed_problems.exists_problem (mem_all rule) hbroken
    rwa [ViolatesIn.problem_eq hbroken hsame]

theorem part_of_mem_problemsOf {part : Section} (h : problem ∈ c.problemsOf fileExists part) :
    problem.rule.part = part := by
  obtain ⟨rule, hrule, hbroken⟩ := (listed_problemsOf part).exists_rule h
  rw [ViolatesIn.rule_eq hbroken]
  exact part_of_mem_rules rule hrule

theorem problemsIn_eq_problemsOf (part : Section) :
    c.problemsIn fileExists part = c.problemsOf fileExists part := by
  have hone : ∀ other, (c.problemsOf fileExists other).filter (·.rule.part = part) =
      if other = part then c.problemsOf fileExists other else [] := by
    intro other
    split
    · rename_i heq
      refine List.filter_eq_self.2 fun problem hproblem => ?_
      rw [part_of_mem_problemsOf hproblem, decide_eq_true heq]
    · rename_i hne
      refine List.filter_eq_nil_iff.2 fun problem hproblem => ?_
      rw [part_of_mem_problemsOf hproblem, decide_eq_false hne]
      exact Bool.false_ne_true
  rw [problemsIn, problems_eq_flatMap, List.filter_flatMap]
  simp only [hone]
  cases part <;> simp [Section.all]

/-- Two configurations do not differ in a section, nor in whether the file is there that it
names. -/
def Section.Same (c d : Config) (fileExists otherExists : String → Bool) : Section → Prop
  | .server => c.server = d.server
  | .client => c.client = d.client
  | .security => c.security = d.security ∧ ∀ jwt location, c.security.jwt = some jwt →
      jwt.publicKeyLocation = some location → fileExists location = otherExists location
  | .observability => c.observability = d.observability

theorem Jwt.keyProblems_congr (h : ∀ location, j.publicKeyLocation = some location →
    fileExists location = otherExists location) :
    j.keyProblems fileExists = j.keyProblems otherExists := by
  rw [Jwt.keyProblems.eq_def, Jwt.keyProblems.eq_def]
  split
  · rfl
  · rfl
  · rfl
  · rename_i location _ hlocation
    rw [h location hlocation]

theorem problemsOf_congr {part : Section} (h : part.Same c d fileExists otherExists) :
    c.problemsOf fileExists part = d.problemsOf otherExists part := by
  cases part with
  | server => exact congrArg Server.problems h
  | client => exact congrArg Client.problems h
  | observability => exact congrArg Observability.problems h
  | security =>
    obtain ⟨hsection, hfile⟩ := h
    rw [problemsOf, problemsOf, Security.problems, Security.problems, ← hsection]
    cases hjwt : c.security.jwt with
    | none => rfl
    | some jwt =>
      dsimp only
      rw [Jwt.problems, Jwt.problems, Jwt.keyProblems_congr (hfile jwt · hjwt)]

/-! ### What can be relied on -/

/-- What is told of a token check. -/
structure Jwt.Told (j : Jwt) (fileExists : String → Bool) (problems : List Problem) : Prop where
  algorithmCount : .algorithmCount ∈ problems ↔ j.algorithms.length ≠ 1
  unknownAlgorithm : ∀ name, .unknownAlgorithm name ∈ problems ↔
    j.algorithms = [name] ∧ Algorithm.ofName? name = none
  missingKey : .missingKey ∈ problems ↔ j.secret = none ∧ j.publicKeyLocation = none
  conflictingKeys : .conflictingKeys ∈ problems ↔ j.secret ≠ none ∧ j.publicKeyLocation ≠ none
  publicKeyNotFound : ∀ location, .publicKeyNotFound location ∈ problems ↔
    j.secret = none ∧ j.publicKeyLocation = some location ∧ fileExists location = false
  algorithmKeyMismatch : ∀ name, .algorithmKeyMismatch name ∈ problems ↔
    j.algorithms = [name] ∧ ∃ algorithm, Algorithm.ofName? name = some algorithm ∧
      j.Mismatches algorithm

theorem mem_problems_iff_of_jwt (hjwt : c.security.jwt = some j)
    (hrule : problem.rule ∈ Rule.ofTokens) :
    problem ∈ c.problems fileExists ↔ j.Violates fileExists problem.rule problem := by
  have hpart : problem.rule.part = .security :=
    part_of_mem_rules _ (List.mem_cons_of_mem _ hrule)
  have hviolates : c.Violates fileExists problem.rule problem ↔
      j.Violates fileExists problem.rule problem := by
    rw [Violates, hpart]
    exact violates_tokens_iff hjwt hrule
  rw [mem_problems_iff, ← hviolates]
  constructor
  · rintro ⟨rule, h⟩
    rwa [ViolatesIn.rule_eq h]
  · exact fun h => ⟨_, h⟩

theorem told_problems (hjwt : c.security.jwt = some j) :
    j.Told fileExists (c.problems fileExists) := by
  constructor
  · rw [mem_problems_iff_of_jwt hjwt (by decide)]
    exact ⟨fun | .algorithmCount h => h, .algorithmCount⟩
  · intro name
    rw [mem_problems_iff_of_jwt hjwt (by decide : Rule.algorithmName ∈ _)]
    exact ⟨fun | .algorithmName hname h => ⟨hname, h⟩, fun ⟨hname, h⟩ => .algorithmName hname h⟩
  · rw [mem_problems_iff_of_jwt hjwt (by decide)]
    exact ⟨fun | .keyMissing hsecret h => ⟨hsecret, h⟩, fun ⟨hsecret, h⟩ => .keyMissing hsecret h⟩
  · rw [mem_problems_iff_of_jwt hjwt (by decide)]
    exact ⟨fun | .keyConflict hsecret h => ⟨hsecret, h⟩, fun ⟨hsecret, h⟩ => .keyConflict hsecret h⟩
  · intro location
    rw [mem_problems_iff_of_jwt hjwt (by decide : Rule.keyFile ∈ _)]
    exact ⟨fun | .keyFile hsecret hlocation h => ⟨hsecret, hlocation, h⟩,
      fun ⟨hsecret, hlocation, h⟩ => .keyFile hsecret hlocation h⟩
  · intro name
    rw [mem_problems_iff_of_jwt hjwt (by decide : Rule.keyKind ∈ _)]
    exact ⟨fun | .keyKind hname hknown h => ⟨hname, _, hknown, h⟩,
      fun ⟨hname, _, hknown, h⟩ => .keyKind hname hknown h⟩

/-- **What can be relied on** when a configuration is checked. -/
structure Reported (c : Config) (fileExists : String → Bool) : Prop where
  /-- It is valid if it breaks no rule. -/
  valid : c.isValid fileExists = true ↔ ∀ rule problem, ¬ c.Violates fileExists rule problem
  /-- Nothing is told of a rule that is kept, and one thing of a rule that is broken. -/
  listed : Listed (c.Violates fileExists) Rule.all (c.problems fileExists)
  /-- Nothing else is told. -/
  told : ∀ problem, problem ∈ c.problems fileExists ↔ ∃ rule, c.Violates fileExists rule problem
  /-- Nothing is told twice. -/
  once : ((c.problems fileExists).map Problem.rule).Nodup
  /-- The sections come in their order. -/
  inOrder : c.problems fileExists = Section.all.flatMap (c.problemsIn fileExists)
  /-- What is told of a section's rules depends on that section, whatever else is wrong. -/
  alone : ∀ (part : Section) (d : Config) (otherExists : String → Bool),
    part.Same c d fileExists otherExists →
      c.problemsIn fileExists part = d.problemsIn otherExists part
  /-- This is what is told of a token check. -/
  tokens : ∀ jwt, c.security.jwt = some jwt → jwt.Told fileExists (c.problems fileExists)

/-- **Every broken rule is told, once**, for every configuration and whatever files there are. -/
theorem problems_reported (c : Config) (fileExists : String → Bool) : Reported c fileExists := by
  refine
    { valid := ?_
      listed := listed_problems
      told := fun problem => mem_problems_iff
      once := ?_
      inOrder := ?_
      alone := fun part d otherExists hsame => ?_
      tokens := fun jwt hjwt => told_problems hjwt }
  · rw [isValid, beq_iff_eq, List.eq_nil_iff_forall_not_mem]
    simp only [mem_problems_iff, not_exists]
    exact forall_comm
  · have hrules : Rule.all.Nodup := by decide
    exact (listed_problems.map_rule_sublist fun _ _ h => ViolatesIn.rule_eq h).nodup hrules
  · have hsections : c.problemsIn fileExists = c.problemsOf fileExists :=
      funext problemsIn_eq_problemsOf
    rw [hsections, problems_eq_flatMap]
  · rw [problemsIn_eq_problemsOf, problemsIn_eq_problemsOf]
    exact problemsOf_congr hsame

/-- Three sections at once; of the token check its missing file is told, and its algorithm too. -/
example :
    ({ server := { path := "tunnel", disconnectMillis := 0 }
       client := { remoteUrl := "https://example.com/tunnel" }
       security := { jwt := some { publicKeyLocation := some "key.pem" } } } : Config).problems
        (fun _ => false) =
      [.invalidPath "tunnel", .nonPositiveTimeout "server.disconnect_timeout_ms",
        .invalidRemoteUrl "https://example.com/tunnel", .publicKeyNotFound "key.pem",
        .algorithmKeyMismatch "HS256"] := by
  decide +kernel

end Config
end PollTunnel
