import FormatterModules.Configuration
import FormatterModules.Proofs.EngineState.Equality
import FormatterModules.Proofs.Json.Text
import FormatterModules.Proofs.Version.Text

namespace FormatterModules

theorem ArtifactIdentity.toJson_injective : Function.Injective ArtifactIdentity.toJson := by
  intro d e h
  cases d
  cases e
  simpa [toJson] using h

theorem Preferences.toJson_injective : Function.Injective Preferences.toJson := by
  intro p q h
  have hentries : Function.Injective fun e : String × String => (e.1, Json.string e.2) := by
    rintro ⟨key, value⟩ ⟨key', value'⟩ he
    simpa using he
  have hmap : p.toList.map (fun e => (e.1, Json.string e.2)) =
      q.toList.map (fun e => (e.1, Json.string e.2)) := by simpa [toJson] using h
  have hlist : p.entries.toList = q.entries.toList :=
    (List.map_inj_right fun _ _ he => hentries he).mp hmap
  exact toList_eq_iff.mp hlist

namespace EngineState

/-- Both states show the same, down to the spelling of the version. -/
structure Alike (a b : EngineState) : Prop where
  version : a.version.render = b.version.render
  moduleUrl : a.moduleUrl?.map Url.href = b.moduleUrl?.map Url.href
  artifacts : a.artifacts.identitySet = b.artifacts.identitySet
  preferences : a.preferences = b.preferences

theorem Alike.beq {a b : EngineState} (h : Alike a b) : (a == b) = true := by
  refine beq_iff.mpr ⟨?_, h.moduleUrl, h.artifacts, h.preferences⟩
  rw [Version.render_injective h.version]
  exact Version.beq_self _

theorem alike_of_beq {a b : EngineState} (h : (a == b) = true)
    (hv : a.version.render = b.version.render) : Alike a b := by
  obtain ⟨_, hu, ha, hp⟩ := beq_iff.mp h
  exact ⟨hv, hu, ha, hp⟩

theorem toJson_eq_iff {a b : EngineState} : a.toJson = b.toJson ↔ Alike a b := by
  constructor
  · intro h
    simp only [toJson, Json.object.injEq, List.cons.injEq, Prod.mk.injEq, Json.string.injEq,
      Json.array.injEq, true_and, and_true] at h
    obtain ⟨hv, hu, ha, hp⟩ := h
    refine ⟨hv, ?_, ?_, Preferences.toJson_injective hp⟩
    · cases ha : a.moduleUrl? <;> cases hb : b.moduleUrl? <;> simp_all
    · exact OrderedSet.ext
        ((List.map_inj_right fun _ _ hd => ArtifactIdentity.toJson_injective hd).mp ha)
  · intro h
    have hu : (a.moduleUrl?.map fun url => Json.string url.href) =
        b.moduleUrl?.map fun url => Json.string url.href := by
      simpa [Function.comp_def] using congrArg (Option.map Json.string) h.moduleUrl
    rw [toJson, toJson, h.version, h.artifacts, h.preferences, hu]

theorem toJson_numberFree (s : EngineState) : s.toJson.NumberFree := by
  refine .object _ ?_
  simp only [List.forall_mem_cons, List.not_mem_nil, false_imp_iff, implies_true, and_true]
  refine ⟨.string _, ?_, ?_, ?_⟩
  · cases s.moduleUrl? with
    | none => exact .null
    | some url => exact .string _
  · refine .array _ ?_
    intro j hj
    obtain ⟨d, _, rfl⟩ := List.mem_map.mp hj
    refine .object _ ?_
    simp [Json.NumberFree.string]
  · refine .object _ ?_
    simp only [List.forall_mem_cons, List.not_mem_nil, false_imp_iff, implies_true, and_true]
    refine .object _ ?_
    intro m hm
    obtain ⟨e, _, rfl⟩ := List.mem_map.mp hm
    exact .string _

theorem render_toJson_eq_iff {a b : EngineState} : a.toJson.render = b.toJson.render ↔ Alike a b := by
  constructor
  · intro h
    exact toJson_eq_iff.mp (a.toJson_numberFree.render_injective b.toJson_numberFree h)
  · intro h
    rw [toJson_eq_iff.mpr h]

theorem fingerprint_eq_iff_alike {a b : EngineState}
    (h : CollisionFree [a.toJson.render, b.toJson.render]) :
    a.fingerprint = b.fingerprint ↔ Alike a b := by
  rw [← render_toJson_eq_iff]
  exact ⟨h _ (by simp) _ (by simp), congrArg sha256OfText⟩

/-- No two states that differ in what they show have the same text, whatever characters stand in it,
nor the same fingerprint, as long as the digests of their texts do not collide. -/
theorem fingerprint_separates (a b : EngineState) :
    (a.toJson.render = b.toJson.render → Alike a b ∧ (a == b) = true) ∧
    (CollisionFree [a.toJson.render, b.toJson.render] → a.fingerprint = b.fingerprint →
      Alike a b ∧ (a == b) = true) := by
  constructor
  · intro h
    have halike := render_toJson_eq_iff.mp h
    exact ⟨halike, halike.beq⟩
  · intro hc h
    have halike := (fingerprint_eq_iff_alike hc).mp h
    exact ⟨halike, halike.beq⟩

def quotedFile (directory : String) : Path := ⟨directory ++ "/\",\"sha256\":\"\x7d"⟩

def quotedState (directory : String) (number : Nat) : EngineState where
  version := ⟨[1, 0], by simp⟩
  moduleUrl? := none
  artifacts := .ofList [.ofContent (quotedFile directory) ""]
  preferences := .ofList [("\"\x7d", "\\"), ("", "\n\x00")]
  loader := ⟨⟨number⟩, ⟨.empty, .standard⟩, [], .empty⟩

theorem fingerprint_separates_quoted :
    (quotedState "a" 1).fingerprint = (quotedState "b" 2).fingerprint ∧
      Alike (quotedState "a" 1) (quotedState "b" 2) ∧
      (quotedState "a" 1 == quotedState "b" 2) = true := by
  have hname : (quotedFile "a").lastName = (quotedFile "b").lastName := by decide +kernel
  have hids : (quotedState "a" 1).artifacts.identities =
      (quotedState "b" 2).artifacts.identities := by
    change [(⟨Path.lastName _, sha256OfText ""⟩ : ArtifactIdentity)] =
      [⟨Path.lastName _, sha256OfText ""⟩]
    rw [hname]
  have htext : (quotedState "a" 1).toJson.render = (quotedState "b" 2).toJson.render := by
    simp only [toJson, ArtifactSet.toList_identitySet, hids]
    rfl
  have hprint : (quotedState "a" 1).fingerprint = (quotedState "b" 2).fingerprint :=
    congrArg sha256OfText htext
  exact ⟨hprint, (fingerprint_separates _ _).2 (collisionFree_pair fun _ => htext) hprint⟩

/-- Equal states have the same fingerprint only if their versions are spelled alike. -/
theorem fingerprint_eq_iff_spelled_alike {a b : EngineState} (h : (a == b) = true)
    (hc : CollisionFree [a.toJson.render, b.toJson.render]) :
    a.fingerprint = b.fingerprint ↔ a.version.render = b.version.render := by
  rw [fingerprint_eq_iff_alike hc]
  exact ⟨Alike.version, alike_of_beq h⟩

def spelledConfiguration (spelling : String) : Except Failure Configuration := do
  let supported ← SupportedVersions.ofList [spelling]
  let defaults ← Coordinate.Template.ofList ["g:a:1"]
  let provisioner : Provisioner := .fixed (.singleton ⟨"m"⟩)
  let c : Configuration := .new "engine" provisioner supported defaults ⟨"/tmp"⟩
  c.chooseDependency (some "g:a:1")

def moduleEnvironment : Environment :=
  .ofFiles ⟨[], .ofList [(["m"], .file (Bytes.ofText "module=['','','']"))]⟩ ⟨"/tmp"⟩

def spelledState (spelling : String) : Except Failure EngineState :=
  (spelledConfiguration spelling).bind fun c =>
    (c.resolve (.ofEngines .builtins) moduleEnvironment).1

theorem spelledStates_differ : ∃ s t, spelledState "1" = .ok s ∧ spelledState "1.0" = .ok t ∧
    (s == t) = true ∧ s.fingerprint ≠ t.fingerprint := by
  have h : ((spelledState "1").bind fun s => (spelledState "1.0").map fun t =>
      s == t && s.fingerprint != t.fingerprint) = .ok true := by decide +kernel
  cases hs : spelledState "1" with
  | error e => rw [hs] at h; cases h
  | ok s =>
    cases ht : spelledState "1.0" with
    | error e => rw [hs, ht] at h; cases h
    | ok t =>
      rw [hs, ht] at h
      have hst : (s == t && s.fingerprint != t.fingerprint) = true := Except.ok.inj h
      exact ⟨s, t, rfl, rfl, by simpa using hst⟩

theorem resolve_of_spelledState {spelling : String} {s : EngineState}
    (h : spelledState spelling = .ok s) :
    ∃ c : Configuration, (c.resolve (.ofEngines .builtins) moduleEnvironment).1 = .ok s := by
  unfold spelledState at h
  cases hc : spelledConfiguration spelling with
  | error e => simp [hc, Except.bind] at h
  | ok c =>
    rw [hc] at h
    exact ⟨c, h⟩

theorem equal_states_differ_in_fingerprint :
    ¬ ∀ (c d : Configuration) (cache cache' : LoaderCache) (env env' : Environment)
      (s t : EngineState), (c.resolve cache env).1 = .ok s → (d.resolve cache' env').1 = .ok t →
      (s == t) = true → s.fingerprint = t.fingerprint := by
  intro hlaw
  obtain ⟨s, t, hs, ht, heq, hne⟩ := spelledStates_differ
  obtain ⟨c, hc⟩ := resolve_of_spelledState hs
  obtain ⟨d, hd⟩ := resolve_of_spelledState ht
  exact hne (hlaw c d _ _ _ _ s t hc hd heq)

theorem fingerprint_eq_iff_spelled_alike_of_spelledStates :
    ∃ s t, spelledState "1" = .ok s ∧ spelledState "1.0" = .ok t ∧ (s == t) = true ∧
      s.fingerprint ≠ t.fingerprint ∧
      (s.fingerprint = t.fingerprint ↔ s.version.render = t.version.render) := by
  obtain ⟨s, t, hs, ht, heq, hne⟩ := spelledStates_differ
  -- The digests of the two texts are the fingerprints.
  have htexts : CollisionFree [s.toJson.render, t.toJson.render] :=
    collisionFree_pair fun h => absurd h hne
  exact ⟨s, t, hs, ht, heq, hne, fingerprint_eq_iff_spelled_alike heq htexts⟩

end EngineState

end FormatterModules
