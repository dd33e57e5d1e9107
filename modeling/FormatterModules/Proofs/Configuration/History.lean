import FormatterModules.Configuration
import FormatterModules.Proofs.EngineState.Fingerprint
import FormatterModules.Proofs.Loader.Cache

namespace FormatterModules

open LoaderCache

namespace EngineState

/-- The states differ in nothing but the numbers of their loaders. -/
structure Agree (s t : EngineState) : Prop where
  version : s.version = t.version
  moduleUrl : s.moduleUrl? = t.moduleUrl?
  artifacts : s.artifacts = t.artifacts
  preferences : s.preferences = t.preferences
  loader : s.loader.Agree t.loader

theorem Agree.beq {s t : EngineState} (h : s.Agree t) : (s == t) = true := by
  rw [beq_iff, h.version, h.moduleUrl, h.artifacts, h.preferences]
  exact ⟨Version.beq_self _, rfl, rfl, rfl⟩

end EngineState

theorem Configuration.resolve_agree (c : Configuration) (cache other : LoaderCache)
    (env : Environment)
    (h : ∀ artifacts, (c.artifacts env).1 = .ok artifacts →
      SameOutcome ModuleLoader.Agree (cache.obtain artifacts c.shared).1
        (other.obtain artifacts c.shared).1) :
    SameOutcome EngineState.Agree (c.resolve cache env).1 (c.resolve other env).1 ∧
      (c.resolve cache env).2.2 = (c.resolve other env).2.2 := by
  unfold resolve
  rcases hread : c.artifacts env with ⟨read, env'⟩
  cases read with
  | error e => exact ⟨.error e, rfl⟩
  | ok artifacts =>
    have hloaders := h artifacts (congrArg Prod.fst hread)
    dsimp only
    rcases hk : cache.obtain artifacts c.shared with ⟨loader, cache'⟩
    rcases hl : other.obtain artifacts c.shared with ⟨loader', other'⟩
    rw [hk, hl] at hloaders
    cases hloaders with
    | error e => exact ⟨.error e, rfl⟩
    | ok hagree =>
      dsimp only
      cases Preferences.readFiles env'.files c.preferenceFiles with
      | error e => exact ⟨.error e, rfl⟩
      | ok preferences => exact ⟨.ok ⟨rfl, rfl, rfl, rfl, hagree⟩, rfl⟩

/-- A cache of any history answers like a new definition, and resolves configurations like a cache
of any other history, as long as the digests of the contents do not collide. -/
theorem history_does_not_show (engines : EngineTable) (history : List Request) :
    (∀ (r : Request) (id : LoaderId), CollisionFree (requestedTexts (r :: history)) →
      SameOutcome ModuleLoader.Agree
        (((ofEngines engines).after history).obtain r.artifacts r.shared).1
        (ModuleLoader.ofArtifacts id engines r.artifacts r.shared)) ∧
    ∀ (others : List Request) (c : Configuration) (env : Environment),
      (∀ artifacts, (c.artifacts env).1 = .ok artifacts →
        CollisionFree (requestedTexts (⟨artifacts, c.shared⟩ :: history ++ others))) →
      SameOutcome (fun s t => s.Agree t ∧ (s == t) = true)
        (c.resolve ((ofEngines engines).after history) env).1
        (c.resolve ((ofEngines engines).after others) env).1 ∧
      (c.resolve ((ofEngines engines).after history) env).2.2 =
        (c.resolve ((ofEngines engines).after others) env).2.2 := by
  have hh := recorded_after engines history
  constructor
  · intro r id hc
    exact hh.obtain_agree hc id
  · intro others c env hc
    have ho := recorded_after engines others
    obtain ⟨hstates, henv⟩ := c.resolve_agree _ _ env fun artifacts ha =>
      hh.obtain_agree_obtain ho (hc artifacts ha)
    refine ⟨?_, henv⟩
    exact SameOutcome.mono (fun _ _ h => ⟨h, h.beq⟩) hstates

def moduleIn (directory text : String) : ArtifactSet := .ofList [.ofContent ⟨directory ++ "/m"⟩ text]

def indentManifest : String :=
  "[module]\ngroup=''\nname=''\nversion=''\n[[class]]\nname='C'\nentry='indent'\n"

def copyHistory : List Request :=
  [⟨moduleIn "a" "", .standard⟩, ⟨moduleIn "a" indentManifest, .standard⟩]

def copyConfiguration : Configuration :=
  .new "engine" (.fixed (.singleton ⟨"b/m"⟩)) ⟨[⟨[1], by simp⟩], by simp⟩ ⟨["g:a:1"]⟩ ⟨"/tmp"⟩

def copyEnvironment : Environment :=
  .ofFiles ⟨[], .ofList [(["b"], .directory), (["b", "m"], .file (Bytes.ofText indentManifest))]⟩
    ⟨"/tmp"⟩

theorem history_does_not_show_copied :
    let cache := (ofEngines .builtins).after copyHistory
    let copy := moduleIn "b" indentManifest
    (copyConfiguration.resolve cache copyEnvironment).1.map (fun s => s.loader.id) = .ok ⟨2⟩ ∧
      SameOutcome ModuleLoader.Agree (cache.obtain copy .standard).1
        (ModuleLoader.ofArtifacts ⟨1⟩ .builtins copy .standard) ∧
      SameOutcome (fun s t => s.Agree t ∧ (s == t) = true)
        (copyConfiguration.resolve cache copyEnvironment).1
        (copyConfiguration.resolve (ofEngines .builtins) copyEnvironment).1 := by
  have htexts : CollisionFree
      (requestedTexts (⟨moduleIn "b" indentManifest, .standard⟩ :: copyHistory)) := by
    have hne : sha256OfText indentManifest ≠ sha256OfText "" := by decide +kernel
    refine (collisionFree_pair fun h => absurd h hne).subset ?_
    change [indentManifest, "", indentManifest] ⊆ [indentManifest, ""]
    simp
  have hread : (copyConfiguration.artifacts copyEnvironment).1 =
      .ok (moduleIn "b" indentManifest) := by decide +kernel
  obtain ⟨hobtain, hresolve⟩ := history_does_not_show .builtins copyHistory
  refine ⟨by decide +kernel, hobtain ⟨_, _⟩ ⟨1⟩ htexts, (hresolve [] _ _ ?_).1⟩
  intro artifacts ha
  obtain rfl : moduleIn "b" indentManifest = artifacts := Except.ok.inj (hread.symm.trans ha)
  rw [List.append_nil]
  exact htexts

end FormatterModules
