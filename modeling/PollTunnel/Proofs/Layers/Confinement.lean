import PollTunnel.Proofs.Layers.Applying

/-!
# Overlays stay beside their base document

The name of a profile becomes part of a file name, and a document or a caller may ask for any text
at all.  What could lead elsewhere is `Unfit`, and no overlay is asked for unless all profiles are
fit (`find?_requestedProfiles`): the first that is not is named in the error.

`Confined` says where documents may lie that are asked for.  It holds for every base document that
has a file name (`apply_confined`), with leading dots, several dots, a dot at the end or none, and
also where slashes and lone dots follow.  The name itself may be any octets: an overlay's name then
has what can be read of them (`apply_not_verbatim`).
-/

set_option autoImplicit false

namespace PollTunnel
namespace Config

/-! ## Profiles that are refused -/

/-- A text that must not become part of a file name: it is empty, has two dots in a row, or a
character other than the letters, digits, hyphen, underscore and dot of ASCII. -/
def Unfit (profile : String) : Prop :=
  profile = "" ∨ ['.', '.'] <:+: profile.toList ∨
    ∃ c ∈ profile.toList, ¬ (c.isAlphanum = true ∨ c = '-' ∨ c = '_' ∨ c = '.')

theorem hasDoubleDot_iff (cs : List Char) : hasDoubleDot cs = true ↔ ['.', '.'] <:+: cs := by
  fun_induction hasDoubleDot cs with
  | case1 rest => simpa using (List.prefix_append ['.', '.'] rest).isInfix
  | case2 c rest hfront ih =>
    rw [ih, List.infix_cons_iff]
    refine ⟨Or.inr, Or.rec (fun hprefix => ?_) id⟩
    obtain ⟨tail, htail⟩ := hprefix
    obtain ⟨rfl, rfl⟩ := List.cons.inj htail
    exact absurd rfl (hfront tail rfl)
  | case3 => simp

theorem isProfileName_iff (profile : String) : isProfileName profile = true ↔ ¬ Unfit profile := by
  rw [isProfileName, Unfit, ← hasDoubleDot_iff]
  simp only [Bool.and_eq_true, decide_eq_true_eq, List.all_eq_true, isProfileChar, Bool.or_eq_true,
    beq_iff_eq, Bool.not_eq_true', not_or, not_exists, not_and, Classical.not_not, Bool.not_eq_true,
    ne_eq]
  grind

/-- Leaving out repetitions does not change what is found first. -/
theorem find?_foldl_addOnce (f : String → Bool) (active profiles : List String) :
    (profiles.foldl Environment.addOnce active).find? f = (active ++ profiles).find? f := by
  induction profiles generalizing active with
  | nil => simp
  | cons p profiles ih =>
    rw [List.foldl_cons, ih, Environment.addOnce]
    split
    · rename_i hactive
      rw [List.find?_append, List.find?_append, List.find?_cons]
      split
      · -- what repeats and fits is not the first that fits
        rename_i hp
        have hfirst : (active.find? f).isSome = true :=
          List.find?_isSome.2 ⟨p, by simpa using hactive, hp⟩
        obtain ⟨q, hq⟩ := Option.isSome_iff_exists.1 hfirst
        simp [hq]
      · rfl
    · simp

/-- The profile that is refused is the first of those asked for that is not fit. -/
theorem find?_requestedProfiles {table : Toml.Table} {additional : List String} {p : String} :
    (requestedProfiles table additional).find? (!isProfileName ·) = some p ↔
      ∃ before after, declaredProfiles table ++ additional = before ++ p :: after ∧
        (∀ q ∈ before, ¬ Unfit q) ∧ Unfit p := by
  rw [requestedProfiles, distinct, find?_foldl_addOnce, List.nil_append,
    List.find?_eq_some_iff_append]
  have hunfit : ∀ q, (!isProfileName q) = true ↔ Unfit q := by
    intro q
    rw [Bool.not_eq_true', ← Bool.not_eq_true, isProfileName_iff, Classical.not_not]
  constructor
  · rintro ⟨hp, before, after, hsplit, hbefore⟩
    refine ⟨before, after, hsplit, fun q hq => ?_, (hunfit p).1 hp⟩
    rw [← hunfit, Bool.not_eq_true]
    simpa using hbefore q hq
  · rintro ⟨before, after, hsplit, hbefore, hp⟩
    refine ⟨(hunfit p).2 hp, before, after, hsplit, fun q hq => ?_⟩
    simpa using (isProfileName_iff q).2 (hbefore q hq)

/-- None is refused if all are fit. -/
theorem find?_requestedProfiles_eq_none {table : Toml.Table} {additional : List String} :
    (requestedProfiles table additional).find? (!isProfileName ·) = none ↔
      ∀ p ∈ declaredProfiles table ++ additional, ¬ Unfit p := by
  rw [requestedProfiles, distinct, find?_foldl_addOnce, List.nil_append, List.find?_eq_none]
  simp only [Bool.not_eq_true', Bool.not_eq_false, isProfileName_iff]

/-! ## Where documents may lie -/

/-- **No document is asked for but the base document and what lies beside it** under the name that a
profile makes of its own. -/
structure Confined (loader : Loader) (additional : List String) (location : Location)
    (a : Applied) : Prop where
  /-- The stem and the extension are those of the base document's file name.  If that is a text, an
  overlay's name has both of them as they are. -/
  named : ∃ name, Location.fileName? location = some name ∧
    Location.Splits name (Location.stem location) (Location.extension? location) ∧
    (Location.IsText name → ∀ profile, Location.overlayName location profile =
      Location.stem location ++ Bytes.ofString ("-" ++ profile) ++
        Location.suffix (Location.extension? location))
  beside : ∀ asked ∈ a.asked, asked = location ∨
    ∃ table profile, loadTable loader location = .ok (some table) ∧
      profile ∈ declaredProfiles table ++ additional ∧ ¬ Unfit profile ∧
      asked = Location.overlay location profile ∧ Location.IsOverlay location profile asked
  /-- Overlays of two profiles have two names. -/
  apart : ∀ p q, p ≠ q → ∀ asked other, Location.IsOverlay location p asked →
    Location.IsOverlay location q other → Location.fileName? asked ≠ Location.fileName? other
  /-- If a profile is not fit, the first such is named, and no overlay is asked for. -/
  refused : ∀ table, loadTable loader location = .ok (some table) →
    (∃ p ∈ declaredProfiles table ++ additional, Unfit p) →
    ∃ before p after, declaredProfiles table ++ additional = before ++ p :: after ∧
      (∀ q ∈ before, ¬ Unfit q) ∧ Unfit p ∧ a.result = .error (.invalidProfile p) ∧
      a.asked = [location]
  /-- Without a base document that is the error, whatever the profiles are, and none is asked for.
  -/
  unread : (∀ table, loadTable loader location ≠ .ok (some table)) →
    ∃ cause, (loadTable loader location = .error cause ∨
        loadTable loader location = .ok none ∧ cause = .notFound location) ∧
      a.result = .error cause ∧ a.asked = [location]

theorem mem_asked_applyOverlays {loader : Loader} {base : Location} {a : Applied}
    {profiles : List String} {asked : Location}
    (h : asked ∈ (applyOverlays loader base a profiles).asked) :
    asked ∈ a.asked ∨ ∃ p ∈ profiles, asked = Location.overlay base p := by
  rcases applyOverlays_cases loader base a profiles with
    ⟨-, heq⟩ | ⟨done, q, rest, e, rfl, -, heq⟩
  · rw [heq] at h
    refine (List.mem_append.1 h).imp id fun hmem => ?_
    obtain ⟨p, hp, hoverlay⟩ := List.mem_map.1 hmem
    exact ⟨p, hp, hoverlay.symm⟩
  · rw [heq] at h
    rcases List.mem_append.1 h with h | h
    · refine (List.mem_append.1 h).imp id fun hmem => ?_
      obtain ⟨p, hp, hoverlay⟩ := List.mem_map.1 hmem
      exact ⟨p, List.mem_append_left _ hp, hoverlay.symm⟩
    · exact Or.inr ⟨q, List.mem_append_right _ List.mem_cons_self, List.mem_singleton.1 h⟩

/-- What is asked for is the base document, or the overlay of a profile that is fit. -/
theorem mem_asked_apply {loader : Loader} {additional : List String} {e : Environment}
    {location asked : Location} (h : asked ∈ (apply loader additional e location).asked) :
    asked = location ∨ ∃ table profile, loadTable loader location = .ok (some table) ∧
      profile ∈ declaredProfiles table ++ additional ∧ ¬ Unfit profile ∧
      asked = Location.overlay location profile := by
  rcases apply_cases loader additional e location with
    ⟨cause, -, heq⟩ | ⟨table, hbase, ⟨p, -, heq⟩ | ⟨hnames, heq⟩⟩
  · rw [heq] at h
    exact Or.inl (List.mem_singleton.1 h)
  · rw [heq] at h
    exact Or.inl (List.mem_singleton.1 h)
  · rw [heq] at h
    refine (mem_asked_applyOverlays h).imp List.mem_singleton.1 fun ⟨p, hp, hasked⟩ => ?_
    have hmem : p ∈ declaredProfiles table ++ additional := by
      rw [requestedProfiles, distinct_eq_eraseDups] at hp
      exact List.mem_eraseDups.1 hp
    exact ⟨table, p, hbase, hmem, (isProfileName_iff p).1 (hnames p hp), hasked⟩

/-- **Overlays cannot lead elsewhere**, whatever profiles are asked for. -/
theorem apply_confined (loader : Loader) (additional : List String) (e : Environment)
    {location : Location} {name : Bytes} (h : Location.fileName? location = some name) :
    Confined loader additional location (apply loader additional e location) where
  named := ⟨name, h, Location.splits_stem h, Location.overlayName_of_isText h⟩
  beside := by
    intro asked hasked
    refine (mem_asked_apply hasked).imp id ?_
    rintro ⟨table, p, hbase, hp, hfit, hoverlay⟩
    have hslash := slash_not_mem_of_isProfileName ((isProfileName_iff p).2 hfit)
    refine ⟨table, p, hbase, hp, hfit, hoverlay, ?_⟩
    rw [hoverlay]
    exact Location.isOverlay_overlay h hslash
  apart := by
    intro p q hne asked other hasked hother
    rw [hasked.name, hother.name]
    exact fun heq => hne (Location.overlayName_injective location (Option.some.inj heq))
  refused := by
    rintro table hbase ⟨p, hp, hunfit⟩
    have hfound :
        ((requestedProfiles table additional).find? (!isProfileName ·)).isSome = true := by
      rw [requestedProfiles, distinct, find?_foldl_addOnce, List.nil_append, List.find?_isSome]
      refine ⟨p, hp, ?_⟩
      rw [Bool.not_eq_true', ← Bool.not_eq_true, isProfileName_iff]
      exact fun hfit => hfit hunfit
    obtain ⟨first, hfirst⟩ := Option.isSome_iff_exists.1 hfound
    obtain ⟨before, after, hsplit, hbefore, hunfit⟩ := find?_requestedProfiles.1 hfirst
    refine ⟨before, first, after, hsplit, hbefore, hunfit, ?_⟩
    simp only [apply, hbase, hfirst]
    exact ⟨rfl, rfl⟩
  unread := by
    intro hnone
    cases hload : loadTable loader location with
    | error cause =>
      rw [apply_of_error hload]
      exact ⟨cause, Or.inl rfl, rfl, rfl⟩
    | ok found =>
      cases found with
      | none =>
        rw [apply_of_missing hload]
        exact ⟨.notFound location, Or.inr ⟨rfl, rfl⟩, rfl, rfl⟩
      | some table => exact absurd hload (hnone table)

/-- A document for whatever is asked. -/
def readyLoader : Loader := fun _ => .ok (some "profiles.active = ['dev.2']")

/-- A base document with two dots in its name and more behind it, first with a profile that has a
dot itself, then with others that are refused. -/
theorem apply_confined_dotted :
    let location := Bytes.ofString "etc//.tunnel.v1.toml/./"
    let fit := apply readyLoader [] {} location
    let unfit := apply readyLoader ["ok", "a..b", "/root"] {} location
    Location.fileName? location = some (Bytes.ofString ".tunnel.v1.toml") ∧
      Confined readyLoader [] location fit ∧
      fit.asked = [location, Bytes.ofString "etc/.tunnel.v1-dev.2.toml"] ∧
      Confined readyLoader ["ok", "a..b", "/root"] location unfit ∧
      unfit.result = .error (.invalidProfile "a..b") ∧ unfit.asked = [location] := by
  intro location fit unfit
  have hname : Location.fileName? location = some (Bytes.ofString ".tunnel.v1.toml") := by
    decide +kernel
  exact ⟨hname, apply_confined readyLoader [] {} hname, by decide +kernel,
    apply_confined readyLoader ["ok", "a..b", "/root"] {} hname,
    (result_eq_error_iff _ _).2 (by decide +kernel), by decide +kernel⟩

/-- An overlay's name does **not** always have the base document's own stem: the octet FF in it is
no part of a text.  And a profile that is not fit is **not** named if the base document is no TOML.
-/
theorem apply_not_verbatim :
    let octets := 0x74 :: 0xFF :: Bytes.ofString ".toml"
    let strange := apply readyLoader [] {} octets
    let plain := Bytes.ofString "t.toml"
    let spoiled := apply (fun _ => .ok (some "x =")) ["../evil"] {} plain
    (strange.asked = [octets, 0x74 :: 0xEF :: 0xBF :: 0xBD :: Bytes.ofString "-dev.2.toml"] ∧
      ¬ ∀ asked ∈ strange.asked, asked = octets ∨
        Location.fileName? asked = some (Location.stem octets ++ Bytes.ofString "-dev.2" ++
          Location.suffix (Location.extension? octets))) ∧
      Unfit "../evil" ∧ spoiled.result = .error (.parse plain) ∧
      spoiled.result ≠ .error (.invalidProfile "../evil") := by
  intro octets strange plain spoiled
  have hresult : spoiled.failure? = some (.parse plain) := by decide +kernel
  refine ⟨⟨by decide +kernel, by decide +kernel⟩, Or.inr (Or.inl ⟨[], "/evil".toList, rfl⟩),
    (result_eq_error_iff _ _).2 hresult, fun hnamed => ?_⟩
  rw [(result_eq_error_iff _ _).1 hnamed] at hresult
  exact absurd hresult (by decide)

end Config
end PollTunnel
