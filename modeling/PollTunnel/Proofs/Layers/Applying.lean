import PollTunnel.Config.Loading
import PollTunnel.Proofs.Layers.Locations

/-!
# What applying documents comes to

`Config.apply` reads a base document, activates the profiles that are asked for, and reads an
overlay for each of them.  This file says what is left behind: in closed form for the overlays,
which are applied one after another until one cannot be read (`applyOverlays_cases`), and then for
the whole (`apply_cases`).

Profiles are made distinct twice, among themselves and against those that are active already, with
one and the same operation (`foldl_addOnce`).

* `Applied.Complete` — what a listener, a loader and an environment have seen if all went well.
* `apply_outcome` — that is how it ends if it ends well; and however it ends, the environment has
  got the documents that the listener was told of, and no other.
-/

set_option autoImplicit false

namespace PollTunnel
namespace Config

/-! ## Each member once -/

namespace Environment

theorem foldl_addOnce (active profiles : List String) :
    profiles.foldl addOnce active = active ++ (profiles.filter (· ∉ active)).eraseDups := by
  induction profiles generalizing active with
  | nil => simp
  | cons p profiles ih =>
    rw [List.foldl_cons, ih, addOnce]
    by_cases h : p ∈ active
    · simp [h]
    · have hlater : profiles.filter (· ∉ active ++ [p]) =
          (profiles.filter (· ∉ active)).filter (fun q => !q == p) := by
        rw [List.filter_filter]
        refine List.filter_congr fun q _ => ?_
        by_cases hq : q = p <;> simp [hq]
      rw [if_neg (by simpa using h), hlater, List.filter_cons_of_pos (by simpa using h),
        List.eraseDups_cons, List.append_assoc, List.singleton_append]

theorem nodup_foldl_addOnce {active : List String} (h : active.Nodup) (profiles : List String) :
    (profiles.foldl addOnce active).Nodup := by
  induction profiles generalizing active with
  | nil => exact h
  | cons p profiles ih => exact ih (nodup_addOnce h p)

end Environment

theorem distinct_eq_eraseDups (profiles : List String) :
    distinct profiles = profiles.eraseDups := by
  rw [distinct, Environment.foldl_addOnce, List.nil_append, List.filter_eq_self.2 (by simp)]

theorem nodup_distinct (profiles : List String) : (distinct profiles).Nodup :=
  Environment.nodup_foldl_addOnce List.nodup_nil profiles

theorem eraseDups_of_nodup {profiles : List String} (h : profiles.Nodup) :
    profiles.eraseDups = profiles := by
  induction profiles with
  | nil => rfl
  | cons p profiles ih =>
    obtain ⟨hp, hprofiles⟩ := List.nodup_cons.1 h
    have hall : profiles.filter (fun q => !q == p) = profiles :=
      List.filter_eq_self.2 fun q hq => by simpa using fun heq : q = p => hp (heq ▸ hq)
    rw [List.eraseDups_cons, hall, ih hprofiles]

/-- Profiles that are distinct are activated in order, those that are active already left out. -/
theorem activeProfiles_activate (e : Environment) {profiles : List String} (h : profiles.Nodup) :
    (e.activate profiles).activeProfiles =
      e.activeProfiles ++ profiles.filter (· ∉ e.activeProfiles) := by
  rw [Environment.activate, Environment.foldl_addOnce, eraseDups_of_nodup (h.filter _)]

/-! ## One overlay after another -/

/-- The document that a loader has for a profile. -/
def overlay? (loader : Loader) (base : Location) (profile : String) : Option Source :=
  match loadTable loader (Location.overlay base profile) with
  | .ok (some table) => some ⟨(Location.overlay base profile).text, table⟩
  | _ => none

/-- What is told when the document of a profile was looked for. -/
def overlayNotice (loader : Loader) (base : Location) (profile : String) : Notice :=
  match overlay? loader base profile with
  | some source => .sourceAdded source
  | none => .overlayMissing profile (Location.overlay base profile)

/-- A loader can tell what there is at a location, if anything. -/
def Readable (loader : Loader) (location : Location) : Prop :=
  ∃ found, loadTable loader location = .ok found

/-- The overlays of profiles were looked for, and those that exist were put on top. -/
def Applied.overlaid (a : Applied) (loader : Loader) (base : Location) (profiles : List String) :
    Applied :=
  { a with
    environment :=
      { a.environment with
        sources := a.environment.sources ++ profiles.filterMap (overlay? loader base) }
    asked := a.asked ++ profiles.map (Location.overlay base)
    notices := a.notices ++ profiles.map (overlayNotice loader base) }

theorem overlaid_nil (a : Applied) (loader : Loader) (base : Location) :
    a.overlaid loader base [] = a := by
  simp [Applied.overlaid]

theorem overlaid_cons (a : Applied) (loader : Loader) (base : Location) (profile : String)
    (rest : List String) : a.overlaid loader base (profile :: rest) =
      (a.overlaid loader base [profile]).overlaid loader base rest := by
  cases h : overlay? loader base profile <;> simp [Applied.overlaid, h]

/-- An overlay that can be read, or is missing, is done with before the others. -/
theorem applyOverlays_cons_of_readable {loader : Loader} {base : Location} {profile : String}
    (a : Applied) (h : Readable loader (Location.overlay base profile)) (rest : List String) :
    applyOverlays loader base a (profile :: rest) =
      applyOverlays loader base (a.overlaid loader base [profile]) rest := by
  obtain ⟨found, hfound⟩ := h
  rw [applyOverlays, hfound]
  cases found with
  | none => simp [Applied.overlaid, overlayNotice, overlay?, hfound, Applied.ask]
  | some table =>
    simp [Applied.overlaid, overlayNotice, overlay?, hfound, Applied.ask, Applied.addSource,
      Environment.add]

/-- Overlays that can be read, or are missing, are done with before the others. -/
theorem applyOverlays_append_of_readable {loader : Loader} {base : Location} (a : Applied)
    {done : List String} (h : ∀ p ∈ done, Readable loader (Location.overlay base p))
    (rest : List String) :
    applyOverlays loader base a (done ++ rest) =
      applyOverlays loader base (a.overlaid loader base done) rest := by
  induction done generalizing a with
  | nil => rw [overlaid_nil, List.nil_append]
  | cons p done ih =>
    obtain ⟨hp, hdone⟩ := List.forall_mem_cons.1 h
    rw [List.cons_append, applyOverlays_cons_of_readable a hp, ih _ hdone, ← overlaid_cons]

theorem applyOverlays_of_readable {loader : Loader} {base : Location} (a : Applied)
    {profiles : List String} (h : ∀ p ∈ profiles, Readable loader (Location.overlay base p)) :
    applyOverlays loader base a profiles = a.overlaid loader base profiles := by
  have hall := applyOverlays_append_of_readable a h []
  rwa [List.append_nil] at hall

/-- The first overlay that cannot be read ends it. -/
theorem applyOverlays_of_error {loader : Loader} {base : Location} {p : String} (a : Applied)
    {done : List String} (h : ∀ q ∈ done, Readable loader (Location.overlay base q)) {cause : Error}
    (hp : loadTable loader (Location.overlay base p) = .error cause) (rest : List String) :
    applyOverlays loader base a (done ++ p :: rest) =
      ((a.overlaid loader base done).ask (Location.overlay base p)).fail cause := by
  rw [applyOverlays_append_of_readable a h, applyOverlays, hp]

/-- All overlays can be read, or there is a first that cannot. -/
theorem readable_cases (loader : Loader) (base : Location) (profiles : List String) :
    (∀ p ∈ profiles, Readable loader (Location.overlay base p)) ∨
    ∃ done p rest cause, profiles = done ++ p :: rest ∧
      (∀ q ∈ done, Readable loader (Location.overlay base q)) ∧
      loadTable loader (Location.overlay base p) = .error cause := by
  induction profiles with
  | nil => exact Or.inl nofun
  | cons p profiles ih =>
    cases hload : loadTable loader (Location.overlay base p) with
    | error cause => exact Or.inr ⟨[], p, profiles, cause, rfl, nofun, hload⟩
    | ok found =>
      have hp : Readable loader (Location.overlay base p) := ⟨found, hload⟩
      refine ih.imp (fun hall => List.forall_mem_cons.2 ⟨hp, hall⟩) ?_
      rintro ⟨done, q, rest, cause, rfl, hdone, hq⟩
      exact ⟨p :: done, q, rest, cause, rfl, List.forall_mem_cons.2 ⟨hp, hdone⟩, hq⟩

/-- **All overlays were applied, or those before one that cannot be read.** -/
theorem applyOverlays_cases (loader : Loader) (base : Location) (a : Applied)
    (profiles : List String) :
    ((∀ p ∈ profiles, Readable loader (Location.overlay base p)) ∧
      applyOverlays loader base a profiles = a.overlaid loader base profiles) ∨
    ∃ done p rest e, profiles = done ++ p :: rest ∧
      loadTable loader (Location.overlay base p) = .error e ∧
      applyOverlays loader base a profiles =
        ((a.overlaid loader base done).ask (Location.overlay base p)).fail e := by
  rcases readable_cases loader base profiles with hall | ⟨done, p, rest, e, rfl, hdone, hp⟩
  · exact Or.inl ⟨hall, applyOverlays_of_readable a hall⟩
  · exact Or.inr ⟨done, p, rest, e, rfl, hp, applyOverlays_of_error a hdone hp rest⟩

/-! ## The base document -/

/-- A base document was read: it is on top, and the profiles that are asked for are active. -/
def opened (e : Environment) (location : Location) (table : Toml.Table) (profiles : List String) :
    Applied :=
  (({ environment := e, asked := [location] } : Applied).addSource ⟨location.text, table⟩).activate
    profiles

section Ways

variable {loader : Loader} {additional : List String} {e : Environment} {location : Location}

theorem apply_of_error {cause : Error} (h : loadTable loader location = .error cause) :
    apply loader additional e location =
      ({ environment := e, asked := [location] } : Applied).fail cause := by
  simp only [apply, h]

theorem apply_of_missing (h : loadTable loader location = .ok none) :
    apply loader additional e location =
      ({ environment := e, asked := [location] } : Applied).fail (.notFound location) := by
  simp only [apply, h]

theorem apply_of_refused {table : Toml.Table} (h : loadTable loader location = .ok (some table))
    {p : String} (hp : (requestedProfiles table additional).find? (!isProfileName ·) = some p) :
    apply loader additional e location =
      ({ environment := e, asked := [location] } : Applied).fail (.invalidProfile p) := by
  simp only [apply, h, hp]

theorem apply_of_opened {table : Toml.Table} (h : loadTable loader location = .ok (some table))
    (hnames : (requestedProfiles table additional).find? (!isProfileName ·) = none) :
    apply loader additional e location =
      applyOverlays loader location (opened e location table (requestedProfiles table additional))
        (requestedProfiles table additional) := by
  simp only [apply, h, hnames, opened]

end Ways

/-- **How applying documents can end.** -/
theorem apply_cases (loader : Loader) (additional : List String) (e : Environment)
    (location : Location) :
    (∃ cause, (∀ table, loadTable loader location ≠ .ok (some table)) ∧
      apply loader additional e location =
        ({ environment := e, asked := [location] } : Applied).fail cause) ∨
    ∃ table, loadTable loader location = .ok (some table) ∧
      ((∃ p, (requestedProfiles table additional).find? (!isProfileName ·) = some p ∧
          apply loader additional e location =
            ({ environment := e, asked := [location] } : Applied).fail (.invalidProfile p)) ∨
        (∀ p ∈ requestedProfiles table additional, isProfileName p = true) ∧
          apply loader additional e location =
            applyOverlays loader location
              (opened e location table (requestedProfiles table additional))
              (requestedProfiles table additional)) := by
  cases hload : loadTable loader location with
  | error cause => exact Or.inl ⟨cause, nofun, apply_of_error hload⟩
  | ok found =>
    cases found with
    | none => exact Or.inl ⟨.notFound location, nofun, apply_of_missing hload⟩
    | some table =>
      refine Or.inr ⟨table, rfl, ?_⟩
      cases hfind : (requestedProfiles table additional).find? (!isProfileName ·) with
      | some p => exact Or.inl ⟨p, rfl, apply_of_refused hload hfind⟩
      | none =>
        refine Or.inr ⟨?_, apply_of_opened hload hfind⟩
        simpa using List.find?_eq_none.1 hfind

/-! ## What is told -/

/-- The document that a listener is told of. -/
def Notice.source? : Notice → Option Source
  | .sourceAdded source => some source
  | .profilesActivated _ | .overlayMissing _ _ => none

/-- What a listener is told; that an overlay is missing goes to the log alone. -/
def Notice.isHeard : Notice → Bool
  | .sourceAdded _ | .profilesActivated _ => true
  | .overlayMissing _ _ => false

theorem source?_overlayNotice (loader : Loader) (base : Location) (profile : String) :
    (overlayNotice loader base profile).source? = overlay? loader base profile := by
  rw [overlayNotice]
  cases overlay? loader base profile <;> rfl

theorem filter_isHeard_overlayNotices (loader : Loader) (base : Location) (profiles : List String) :
    (profiles.map (overlayNotice loader base)).filter Notice.isHeard =
      (profiles.filterMap (overlay? loader base)).map .sourceAdded := by
  induction profiles with
  | nil => rfl
  | cons p profiles ih =>
    cases h : overlay? loader base p <;>
      simp [overlayNotice, h, List.filter_cons, Notice.isHeard, ih]

/-- An environment has got the documents that a listener was told of. -/
def Announced (before : Environment) (a : Applied) : Prop :=
  a.environment.sources = before.sources ++ a.notices.filterMap Notice.source?

theorem announced_overlaid {before : Environment} {a : Applied} (h : Announced before a)
    (loader : Loader) (base : Location) (profiles : List String) :
    Announced before (a.overlaid loader base profiles) := by
  have hnotices : (profiles.map (overlayNotice loader base)).filterMap Notice.source? =
      profiles.filterMap (overlay? loader base) := by
    have hsame : Notice.source? ∘ overlayNotice loader base = overlay? loader base :=
      funext (source?_overlayNotice loader base)
    rw [List.filterMap_map, hsame]
  simp only [Announced, Applied.overlaid, List.filterMap_append, hnotices]
  rw [h, List.append_assoc]

theorem announced_opened (e : Environment) (location : Location) (table : Toml.Table)
    (profiles : List String) : Announced e (opened e location table profiles) := rfl

theorem announced_apply (loader : Loader) (additional : List String) (e : Environment)
    (location : Location) : Announced e (apply loader additional e location) := by
  have hnothing : Announced e { environment := e, asked := [location] } :=
    (List.append_nil e.sources).symm
  rcases apply_cases loader additional e location with
    ⟨cause, -, heq⟩ | ⟨table, -, ⟨p, -, heq⟩ | ⟨-, heq⟩⟩
  · rw [heq]
    exact hnothing
  · rw [heq]
    exact hnothing
  · have hopened := announced_opened e location table (requestedProfiles table additional)
    rw [heq]
    rcases applyOverlays_cases loader location _ _ with ⟨-, heq⟩ | ⟨done, q, rest, e, -, -, heq⟩
    · rw [heq]
      exact announced_overlaid hopened loader location _
    · rw [heq]
      exact announced_overlaid hopened loader location done

/-! ## If all goes well -/

/-- **A base document and its overlays were all applied.**  The profiles are those that the base
document and the caller ask for, each where it came first; what overlays declare does not matter. -/
structure Applied.Complete (loader : Loader) (additional : List String) (before : Environment)
    (location : Location) (a : Applied) (table : Toml.Table) (profiles : List String) : Prop where
  base : loadTable loader location = .ok (some table)
  requested : profiles = (declaredProfiles table ++ additional).eraseDups
  /-- Each location was asked for once: the base document first, then the overlays in order. -/
  asked : a.asked = location :: profiles.map (Location.overlay location)
  once : a.asked.Nodup
  /-- No overlay was left out that could not be read. -/
  read : ∀ p ∈ profiles, Readable loader (Location.overlay location p)
  sources : a.environment.sources =
    before.sources ++ ⟨location.text, table⟩ :: profiles.filterMap (overlay? loader location)
  active : a.environment.activeProfiles =
    before.activeProfiles ++ profiles.filter (· ∉ before.activeProfiles)
  distinct : before.activeProfiles.Nodup → a.environment.activeProfiles.Nodup
  /-- A listener was told of the profiles once, after the base document and before all others. -/
  heard : a.notices.filter Notice.isHeard =
    .sourceAdded ⟨location.text, table⟩ :: .profilesActivated a.environment.activeProfiles ::
      (profiles.filterMap (overlay? loader location)).map .sourceAdded

theorem slash_not_mem_of_isProfileName {profile : String} (h : isProfileName profile = true) :
    '/' ∉ profile.toList := by
  rw [isProfileName, Bool.and_eq_true, Bool.and_eq_true] at h
  intro hslash
  exact absurd (List.all_eq_true.1 h.1.2 '/' hslash) (by decide)

theorem complete_apply {loader : Loader} {additional : List String} {e : Environment}
    {location : Location} (h : (apply loader additional e location).result = .ok ()) :
    ∃ table profiles, (apply loader additional e location).Complete loader additional e location
      table profiles := by
  rcases apply_cases loader additional e location with
    ⟨cause, -, heq⟩ | ⟨table, hbase, ⟨p, -, heq⟩ | ⟨hnames, heq⟩⟩
  · rw [heq] at h
    cases h
  · rw [heq] at h
    cases h
  · have hnodup : (requestedProfiles table additional).Nodup := nodup_distinct _
    have hactive := activeProfiles_activate e hnodup
    have hdistinct := distinct_eq_eraseDups (declaredProfiles table ++ additional)
    rw [← requestedProfiles] at hdistinct
    generalize requestedProfiles table additional = profiles at *
    rcases applyOverlays_cases loader location (opened e location table profiles) profiles with
      ⟨hread, hall⟩ | ⟨done, q, rest, cause, -, -, hfail⟩
    · rw [hall] at heq
      rw [heq]
      refine ⟨table, profiles, hbase, hdistinct, rfl, ?_, hread, ?_, hactive, ?_, ?_⟩
      · have hapart : ∀ p q, p ≠ q → Location.overlay location p ≠ Location.overlay location q :=
          fun p q hne heq => hne (Location.overlay_injective location heq)
        refine List.nodup_cons.2 ⟨?_, List.Pairwise.map _ hapart hnodup⟩
        rintro hmem
        obtain ⟨p, hp, hsame⟩ := List.mem_map.1 hmem
        exact Location.overlay_ne (slash_not_mem_of_isProfileName (hnames p hp)) hsame
      · exact List.append_assoc _ _ _
      · exact fun hbefore => Environment.nodup_foldl_addOnce hbefore profiles
      · simp only [Applied.overlaid, List.filter_append, filter_isHeard_overlayNotices]
        rfl
    · rw [heq, hfail] at h
      cases h

/-- It ends well if every profile may be part of a file name and nothing is unreadable. -/
theorem result_apply {loader : Loader} {additional : List String} {e : Environment}
    {location : Location} {table : Toml.Table} (hbase : loadTable loader location = .ok (some table))
    (h : ∀ p ∈ declaredProfiles table ++ additional,
      isProfileName p = true ∧ Readable loader (Location.overlay location p)) :
    (apply loader additional e location).result = .ok () := by
  have hprofiles : ∀ p ∈ requestedProfiles table additional,
      isProfileName p = true ∧ Readable loader (Location.overlay location p) := by
    intro p hp
    rw [requestedProfiles, distinct_eq_eraseDups, List.mem_eraseDups] at hp
    exact h p hp
  rcases apply_cases loader additional e location with
    ⟨cause, hnone, -⟩ | ⟨found, hfound, hcases⟩
  · exact absurd hbase (hnone table)
  · cases hbase.symm.trans hfound
    rcases hcases with ⟨p, hp, -⟩ | ⟨-, heq⟩
    · have hname := (hprofiles p (List.mem_of_find?_eq_some hp)).1
      have hbad := List.find?_some hp
      simp [hname] at hbad
    · rcases applyOverlays_cases loader location _ _ with
        ⟨-, hall⟩ | ⟨done, q, rest, cause, hsplit, hq, -⟩
      · rw [heq, hall]
        rfl
      · have hmem := hsplit ▸ List.mem_append_right _ List.mem_cons_self
        obtain ⟨found, hread⟩ := (hprofiles q hmem).2
        cases hread.symm.trans hq

/-- What comes of applying documents, whatever they are. -/
structure Applied.Outcome (loader : Loader) (additional : List String) (before : Environment)
    (location : Location) (a : Applied) : Prop where
  complete : a.result = .ok () →
    ∃ table profiles, a.Complete loader additional before location table profiles
  /-- Nothing but a document that cannot be read or a profile that is no name makes it fail. -/
  succeeds : ∀ table, loadTable loader location = .ok (some table) →
    (∀ p ∈ declaredProfiles table ++ additional,
      isProfileName p = true ∧ Readable loader (Location.overlay location p)) → a.result = .ok ()
  /-- However it ended, the old documents are as they were, and the new ones were announced. -/
  announced : a.environment.sources = before.sources ++ a.notices.filterMap Notice.source?

/-- **What applying documents comes to**, whatever loader, profiles and environment are. -/
theorem apply_outcome (loader : Loader) (additional : List String) (e : Environment)
    (location : Location) :
    (apply loader additional e location).Outcome loader additional e location where
  complete := complete_apply
  succeeds := fun _ hbase h => result_apply hbase h
  announced := announced_apply loader additional e location

/-- The error that it ended with, if any. -/
def Applied.failure? (a : Applied) : Option Error :=
  match a.result with
  | .ok () => none
  | .error e => some e

theorem result_eq_ok_iff (a : Applied) : a.result = .ok () ↔ a.failure? = none := by
  rw [Applied.failure?]
  cases a.result <;> simp

theorem result_eq_error_iff (a : Applied) (e : Error) :
    a.result = .error e ↔ a.failure? = some e := by
  rw [Applied.failure?]
  cases a.result <;> simp

/-- A base document that asks for profiles twice, and overlays of which one asks for more. -/
def layeredLoader : Loader := fun location =>
  match location.text with
  | "conf/tunnel.toml" => .ok (some "profiles.active = ['dev', 'base', 'dev', 7]")
  | "conf/tunnel-dev.toml" => .ok (some "profiles.active = ['more']")
  | "conf/tunnel-cli.toml" => .ok (some "")
  | _ => .ok none

/-- One profile is active before, one has no document, and one is asked for by both sides. -/
theorem apply_outcome_layered :
    let before : Environment := { sources := [⟨"old", []⟩], activeProfiles := ["base", "old"] }
    let location := Bytes.ofString "conf/tunnel.toml"
    let a := apply layeredLoader ["cli", "base"] before location
    a.result = .ok () ∧ (∃ table profiles, a.Complete layeredLoader ["cli", "base"] before
        location table profiles) ∧
      a.asked = ["conf/tunnel.toml", "conf/tunnel-dev.toml", "conf/tunnel-base.toml",
        "conf/tunnel-cli.toml"].map Bytes.ofString ∧
      a.environment.sources.map (·.name) =
        ["old", "conf/tunnel.toml", "conf/tunnel-dev.toml", "conf/tunnel-cli.toml"] ∧
      a.environment.activeProfiles = ["base", "old", "dev", "cli"] := by
  intro before location a
  have houtcome := apply_outcome layeredLoader ["cli", "base"] before location
  have hresult : a.result = .ok () := (result_eq_ok_iff a).2 (by decide +kernel)
  exact ⟨hresult, houtcome.complete hresult, by decide +kernel, by decide +kernel,
    by decide +kernel⟩

end Config
end PollTunnel
