import PollTunnel.Config.Validation

/-!
# What a configuration without problems has

The rules of a configuration, read the other way round: a section without problems has values that
can be used, each of the kind that its place asks for.

* `Config.problems_eq_nil_iff` — the sections are checked one by one.
* `Config.Server.problems_eq_nil_iff` — an address, a path and four positive numbers.
* `Config.Security.problems_eq_nil_iff` — a secret that is not empty.  Nothing is asked of the name
  of the field that carries it.
* `Config.Jwt.problems_eq_nil_iff` — one algorithm, with one key of its kind.
-/

set_option autoImplicit false

namespace PollTunnel
namespace Config

variable {fileExists : String → Bool}

@[simp] theorem report_eq_nil_iff {broken : Bool} {problem : Problem} :
    report broken problem = [] ↔ broken = false := by
  cases broken <;> simp [report]

/-- A configuration has no problems if its sections have none. -/
theorem problems_eq_nil_iff {c : Config} : c.problems fileExists = [] ↔
    (c.server.problems = [] ∧ c.client.problems = [] ∧ c.security.problems fileExists = []) ∧
      c.observability.problems = [] := by
  simp only [problems, List.append_eq_nil_iff, and_assoc]

/-! ## The server section -/

/-- The values of a server section can be used. -/
structure Server.IsUsable (s : Server) : Prop where
  bindAddress : ∃ address, SocketAddress.ofString? s.bindAddress = some address
  path : s.path.toList.head? = some '/'
  targetPort : 0 < s.targetPort
  longPoll : 0 < s.longPollMillis
  disconnect : 0 < s.disconnectMillis
  maxBodySize : 0 < s.maxBodySize

theorem Server.problems_eq_nil_iff {s : Server} : s.problems = [] ↔ s.IsUsable := by
  have hparts : s.problems = [] ↔ (SocketAddress.ofString? s.bindAddress).isSome = true ∧
      s.path.toList.head? = some '/' ∧ 0 < s.targetPort ∧ 0 < s.longPollMillis ∧
      0 < s.disconnectMillis ∧ 0 < s.maxBodySize := by
    simp only [Server.problems, isSocketAddress, List.append_eq_nil_iff, report_eq_nil_iff,
      Bool.not_eq_false', bne_eq_false_iff_eq, beq_eq_false_iff_ne, Nat.pos_iff_ne_zero, and_assoc]
  rw [hparts, Option.isSome_iff_exists]
  constructor
  · rintro ⟨hbind, hpath, hport, hlong, hdisconnect, hsize⟩
    exact ⟨hbind, hpath, hport, hlong, hdisconnect, hsize⟩
  · rintro ⟨hbind, hpath, hport, hlong, hdisconnect, hsize⟩
    exact ⟨hbind, hpath, hport, hlong, hdisconnect, hsize⟩

/-! ## The security section -/

/-- The key that is configured for an algorithm, and nothing besides, is of the kind it needs. -/
inductive Jwt.HasKey (j : Jwt) (fileExists : String → Bool) (algorithm : Algorithm) : Prop
  | secret (secret : String) (hsecret : j.secret = some secret)
    (hlocation : j.publicKeyLocation = none) (hfits : algorithm.isHmac = true)
  | file (location : String) (hsecret : j.secret = none)
    (hlocation : j.publicKeyLocation = some location) (hexists : fileExists location = true)
    (hfits : algorithm.isHmac = false)

theorem Jwt.algorithmProblems_eq_nil_iff {j : Jwt} :
    j.algorithmProblems = [] ↔ ∃ algorithm, j.algorithm? = some algorithm := by
  rw [Jwt.algorithmProblems.eq_def, Jwt.algorithm?.eq_def]
  split
  · rw [report_eq_nil_iff, Option.isNone_eq_false_iff, Option.isSome_iff_exists]
  · simp

theorem Jwt.keyProblems_eq_nil_iff {j : Jwt} {algorithm : Algorithm}
    (h : j.algorithm? = some algorithm) :
    j.keyProblems fileExists = [] ↔ j.HasKey fileExists algorithm := by
  rw [Jwt.keyProblems.eq_def, h]
  constructor
  · intro hnil
    split at hnil
    · cases hnil
    · cases hnil
    · rename_i secret hsecret hlocation
      rw [mismatch, report_eq_nil_iff, Bool.not_eq_false', goesWithSecret_eq] at hnil
      exact .secret secret hsecret hlocation hnil
    · rename_i location hsecret hlocation
      rw [List.append_eq_nil_iff, mismatch, report_eq_nil_iff, report_eq_nil_iff,
        Bool.not_eq_false', Bool.not_not, goesWithSecret_eq] at hnil
      exact .file location hsecret hlocation hnil.1 hnil.2
  · intro hkey
    cases hkey with
    | secret secret hsecret hlocation hfits =>
      rw [hsecret, hlocation]
      simp [mismatch, goesWithSecret_eq, hfits]
    | file location hsecret hlocation hexists hfits =>
      rw [hsecret, hlocation]
      simp [mismatch, goesWithSecret_eq, hexists, hfits]

/-- A token check has no problems if it has one algorithm and one key of its kind. -/
theorem Jwt.problems_eq_nil_iff {j : Jwt} : j.problems fileExists = [] ↔
    ∃ algorithm, j.algorithm? = some algorithm ∧ j.HasKey fileExists algorithm := by
  rw [Jwt.problems, List.append_eq_nil_iff, Jwt.algorithmProblems_eq_nil_iff]
  constructor
  · rintro ⟨⟨algorithm, halgorithm⟩, hkey⟩
    exact ⟨algorithm, halgorithm, (Jwt.keyProblems_eq_nil_iff halgorithm).1 hkey⟩
  · rintro ⟨algorithm, halgorithm, hkey⟩
    exact ⟨⟨algorithm, halgorithm⟩, (Jwt.keyProblems_eq_nil_iff halgorithm).2 hkey⟩

theorem Security.problems_eq_nil_iff {s : Security} : s.problems fileExists = [] ↔
    s.secret ≠ some "" ∧ ∀ jwt, s.jwt = some jwt → jwt.problems fileExists = [] := by
  rw [Security.problems, List.append_eq_nil_iff, report_eq_nil_iff, beq_eq_false_iff_ne]
  cases s.jwt with
  | none => simp
  | some jwt => simp

end Config
end PollTunnel
