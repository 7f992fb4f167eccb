import PollTunnel.Config.Binding

/-!
# Layers of configuration

An `Environment` holds the documents that were read, in order, and the profiles that are active.
Later documents are laid over earlier ones.

* `Environment.merged` — all documents in one table.
* `Environment.bind` — the configuration that this table describes.
* `Environment.activate` — activate profiles; each is listed once, where it came first.
-/

set_option autoImplicit false

namespace PollTunnel
namespace Config

/-- A document that was read, under the name of its location. -/
structure Source where
  name : String
  table : Toml.Table
  deriving Inhabited

/-- The documents in order, and the active profiles. -/
structure Environment where
  sources : List Source := []
  activeProfiles : List String := []
  deriving Inhabited

namespace Environment

/-- Put a document on top. -/
def add (e : Environment) (source : Source) : Environment :=
  { e with sources := e.sources ++ [source] }

/-- A profile is active. -/
def isActive (e : Environment) (profile : String) : Bool := e.activeProfiles.contains profile

/-- A list with one more member at its end, unless it has it already. -/
def addOnce (profiles : List String) (profile : String) : List String :=
  if profiles.contains profile then profiles else profiles ++ [profile]

/-- Activate profiles. -/
def activate (e : Environment) (profiles : List String) : Environment :=
  { e with activeProfiles := profiles.foldl addOnce e.activeProfiles }

/-- All documents laid over each other. -/
def merged (e : Environment) : Toml.Table := Toml.mergeAll (e.sources.map (·.table))

/-- The configuration that the documents describe. -/
def bind (e : Environment) : Except Misfit Config := ofTable e.merged e.activeProfiles

theorem nodup_addOnce {profiles : List String} (h : profiles.Nodup) (p : String) :
    (addOnce profiles p).Nodup := by
  unfold addOnce
  by_cases hp : p ∈ profiles
  · simpa [List.contains_eq_mem, hp] using h
  · simp only [List.contains_eq_mem, hp, decide_false, Bool.false_eq_true, if_false]
    rw [List.nodup_append]
    refine ⟨h, by simp, fun a ha b hb => ?_⟩
    rw [List.mem_singleton.1 hb]
    exact fun e => hp (e ▸ ha)

end Environment
end Config
end PollTunnel
