import PollTunnel.Proofs.Layers.Confinement

/-!
# What a failure leaves behind

A base document and the names of all profiles are looked at before an environment is touched,
overlays only afterwards and one at a time, and nothing is taken back.  So a failure before the
first overlay leaves an environment as it was.  A failure at an overlay leaves what was applied
until then: the base document, the overlays that came before, and *all* profiles that were asked
for, also those whose overlays were never looked for.

* `Fails` — the ways to fail, each with its error and the environment that it leaves.
* `apply_fails_iff` — there are no others.
* `apply_not_atomic` — a document that is not TOML, after another that is applied for good.
-/

set_option autoImplicit false

namespace PollTunnel
namespace Config

variable {loader : Loader} {additional : List String} {before : Environment}
  {location : Location}

/-- How applying documents to an environment can fail, and what the environment is then. -/
inductive Fails (loader : Loader) (additional : List String) (before : Environment)
    (location : Location) : Error → Environment → Prop
  /-- The base document cannot be read, or is not TOML. -/
  | unreadable {cause : Error} (hbase : loadTable loader location = .error cause) :
      Fails loader additional before location cause before
  | missing (hbase : loadTable loader location = .ok none) :
      Fails loader additional before location (.notFound location) before
  /-- Of the profiles that are asked for, the first that is not fit is refused. -/
  | refused {table : Toml.Table} {fit : List String} {p : String} {rest : List String}
      (hbase : loadTable loader location = .ok (some table))
      (hsplit : declaredProfiles table ++ additional = fit ++ p :: rest)
      (hfit : ∀ q ∈ fit, ¬ Unfit q) (hp : Unfit p) :
      Fails loader additional before location (.invalidProfile p) before
  /-- The first overlay that cannot be read, or is not TOML, ends it. -/
  | overlay {table : Toml.Table} {done : List String} {p : String} {rest : List String}
      {cause : Error} (hbase : loadTable loader location = .ok (some table))
      (hfit : ∀ q ∈ declaredProfiles table ++ additional, ¬ Unfit q)
      (hsplit : (declaredProfiles table ++ additional).eraseDups = done ++ p :: rest)
      (hdone : ∀ q ∈ done, Readable loader (Location.overlay location q))
      (hp : loadTable loader (Location.overlay location p) = .error cause) :
      Fails loader additional before location cause
        { sources :=
            before.sources ++ ⟨location.text, table⟩ :: done.filterMap (overlay? loader location)
          activeProfiles :=
            before.activeProfiles ++ (done ++ p :: rest).filter (· ∉ before.activeProfiles) }

/-- What is in an environment if it ends after the overlays of some profiles. -/
theorem environment_stopped {profiles : List String} (h : profiles.Nodup) (table : Toml.Table)
    (done : List String) (asked : Location) (cause : Error) :
    ((((opened before location table profiles).overlaid loader location done).ask asked).fail
        cause).environment =
      { sources :=
          before.sources ++ ⟨location.text, table⟩ :: done.filterMap (overlay? loader location)
        activeProfiles :=
          before.activeProfiles ++ profiles.filter (· ∉ before.activeProfiles) } := by
  have hactive := activeProfiles_activate before h
  rw [Environment.activate] at hactive
  simp only [Applied.fail, Applied.ask, Applied.overlaid, opened, Applied.addSource,
    Applied.activate, Environment.add, Environment.activate, hactive, List.append_assoc,
    List.singleton_append]

/-- Each way to fail is taken. -/
theorem apply_of_fails {err : Error} {after : Environment}
    (h : Fails loader additional before location err after) :
    (apply loader additional before location).result = .error err ∧
      (apply loader additional before location).environment = after := by
  cases h with
  | unreadable hbase =>
    rw [apply_of_error hbase]
    exact ⟨rfl, rfl⟩
  | missing hbase =>
    rw [apply_of_missing hbase]
    exact ⟨rfl, rfl⟩
  | refused hbase hsplit hfit hp =>
    have hfind := find?_requestedProfiles.2 ⟨_, _, hsplit, hfit, hp⟩
    rw [apply_of_refused hbase hfind]
    exact ⟨rfl, rfl⟩
  | @overlay table done p rest cause hbase hfit hsplit hdone hp =>
    have hrequested : requestedProfiles table additional = done ++ p :: rest :=
      (distinct_eq_eraseDups _).trans hsplit
    have hnodup : (done ++ p :: rest).Nodup := hrequested ▸ nodup_distinct _
    rw [apply_of_opened hbase (find?_requestedProfiles_eq_none.2 hfit), hrequested,
      applyOverlays_of_error _ hdone hp]
    exact ⟨rfl, environment_stopped hnodup table done _ _⟩

/-- If it fails, it is in one of these ways. -/
theorem fails_of_result {err : Error}
    (h : (apply loader additional before location).result = .error err) :
    Fails loader additional before location err
      (apply loader additional before location).environment := by
  rcases hbase : loadTable loader location with cause | _ | table
  · rw [apply_of_error hbase] at h ⊢
    obtain rfl : cause = err := Except.error.inj h
    exact .unreadable hbase
  · rw [apply_of_missing hbase] at h ⊢
    obtain rfl : Error.notFound location = err := Except.error.inj h
    exact .missing hbase
  rcases hfind : (requestedProfiles table additional).find? (!isProfileName ·) with _ | p
  · have hrequested := distinct_eq_eraseDups (declaredProfiles table ++ additional)
    rw [← requestedProfiles] at hrequested
    rw [apply_of_opened hbase hfind] at h ⊢
    rcases readable_cases loader location (requestedProfiles table additional) with
      hall | ⟨done, p, rest, cause, hsplit, hdone, hp⟩
    · rw [applyOverlays_of_readable _ hall] at h
      cases h
    · have hnodup : (done ++ p :: rest).Nodup := hsplit ▸ nodup_distinct _
      rw [hsplit, applyOverlays_of_error _ hdone hp] at h ⊢
      obtain rfl : cause = err := Except.error.inj h
      rw [environment_stopped hnodup]
      exact .overlay hbase (find?_requestedProfiles_eq_none.1 hfind) (hrequested ▸ hsplit) hdone hp
  · rw [apply_of_refused hbase hfind] at h ⊢
    obtain rfl : Error.invalidProfile p = err := Except.error.inj h
    obtain ⟨fit, rest, hsplit, hfit, hp⟩ := find?_requestedProfiles.1 hfind
    exact .refused hbase hsplit hfit hp

/-- **What a failure is, and what it leaves behind**, whatever loader, profiles and environment
are. -/
theorem apply_fails_iff (loader : Loader) (additional : List String) (before after : Environment)
    (location : Location) (err : Error) :
    ((apply loader additional before location).result = .error err ∧
      (apply loader additional before location).environment = after) ↔
      Fails loader additional before location err after := by
  constructor
  · rintro ⟨hresult, rfl⟩
    exact fails_of_result hresult
  · exact apply_of_fails

/-- A base document and two overlays, the second of which is not TOML. -/
def spoiledLoader : Loader := fun location =>
  match location.text with
  | "tunnel.toml" => .ok (some "profiles.active = ['base', 'dev', 'last']")
  | "tunnel-base.toml" => .ok (some "server.path = '/base'")
  | "tunnel-dev.toml" => .ok (some "server.path =")
  | _ => .ok none

/-- Applying documents is **not** all or nothing: the error at the second overlay comes when the
base document and the first overlay are applied and all three profiles are active. -/
theorem apply_not_atomic :
    let before : Environment := {}
    let a := apply spoiledLoader [] before (Bytes.ofString "tunnel.toml")
    a.result = .error (.parse (Bytes.ofString "tunnel-dev.toml")) ∧
      a.environment.sources.map (·.name) = ["tunnel.toml", "tunnel-base.toml"] ∧
      a.environment.activeProfiles = ["base", "dev", "last"] ∧
      ¬ (a.environment.sources = before.sources ∧
        a.environment.activeProfiles = before.activeProfiles) := by
  intro before a
  have hactive : a.environment.activeProfiles = ["base", "dev", "last"] := by decide +kernel
  refine ⟨(result_eq_error_iff _ _).2 (by decide +kernel), by decide +kernel, hactive, ?_⟩
  rintro ⟨-, hsame⟩
  exact absurd (hactive.symm.trans hsame) (by decide)

end Config
end PollTunnel
