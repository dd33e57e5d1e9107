import FormatterModules.Proofs.Artifact.Set

namespace FormatterModules

theorem compare_string_eq_lt_iff {s t : String} : compare s t = .lt ↔ s < t :=
  compareOfLessAndEq_eq_lt

/-- Identities are in the order of the names, and of the digests where the names are the same. -/
theorem ArtifactIdentity.compare_eq_lt_iff {i j : ArtifactIdentity} :
    compare i j = .lt ↔ i.fileName < j.fileName ∨ i.fileName = j.fileName ∧ i.sha256 < j.sha256 := by
  change (compareOn fileName i j).then (compareOn sha256 i j) = .lt ↔ _
  rw [Ordering.then_eq_lt, compareOn_eq_eq, compareOn, compareOn, compare_string_eq_lt_iff,
    compare_string_eq_lt_iff]

theorem Artifact.ascending_of_fileNames {as : List Artifact}
    (h : as.Pairwise fun a b => a.identity.fileName < b.identity.fileName) : Ascending as :=
  h.imp fun hlt => ArtifactIdentity.compare_eq_lt_iff.mpr (.inl hlt)

theorem Artifact.location_ofContent (p : Path) (text : String) :
    (ofContent p text).location = p := rfl

namespace ArtifactSet

variable {files : FileTree} {locations : OrderedSet Path} {s t : ArtifactSet}

theorem readArtifact_eq_error {p : Path} {e : Failure} :
    readArtifact files p = .error e ↔
      ∃ cause, files.readText p = .error cause ∧ e = unreadable p cause := by
  unfold readArtifact
  cases files.readText p with
  | error cause => simp [eq_comm]
  | ok text => simp

theorem exists_readArtifact_eq_ok {p : Path} :
    (∃ a, readArtifact files p = .ok a) ↔ ∃ text, files.readText p = .ok text := by
  simp only [readArtifact_eq_ok]
  constructor
  · rintro ⟨a, text, htext, -⟩
    exact ⟨text, htext⟩
  · rintro ⟨text, htext⟩
    exact ⟨_, text, htext, rfl⟩

theorem exists_ofLocations_eq_ok_iff :
    (∃ s, ofLocations files locations = .ok s) ↔
      ∀ p ∈ locations.toList, ∃ text, files.readText p = .ok text := by
  have hread : (∃ as, readArtifacts files locations.toList = .ok as) ↔
      ∀ p ∈ locations.toList, ∃ text, files.readText p = .ok text := by
    rw [readArtifacts_eq_mapM, Failure.exists_mapM_eq_ok_iff]
    simp only [exists_readArtifact_eq_ok]
  rw [← hread, ofLocations]
  cases readArtifacts files locations.toList <;> simp [Except.map]

theorem ofLocations_eq_error_iff {e : Failure} :
    ofLocations files locations = .error e ↔
      ∃ p ∈ locations.toList, ∃ cause, files.readText p = .error cause ∧ e = unreadable p cause ∧
        ∀ q ∈ locations.toList, compare q p = .lt → ∃ text, files.readText q = .ok text := by
  have hread : ofLocations files locations = .error e ↔
      readArtifacts files locations.toList = .error e := by
    unfold ofLocations
    cases readArtifacts files locations.toList <;> simp [Except.map]
  rw [hread, readArtifacts_eq_mapM,
    Failure.mapM_eq_error_iff_of_ascending locations.ascending]
  simp only [readArtifact_eq_error, exists_readArtifact_eq_ok]
  refine exists_congr fun p => and_congr_right fun _ => ?_
  constructor
  · rintro ⟨⟨cause, hcause, he⟩, hless⟩
    exact ⟨cause, hcause, he, hless⟩
  · rintro ⟨cause, hcause, he, hless⟩
    exact ⟨⟨cause, hcause, he⟩, hless⟩

theorem readArtifact_eq_ok_iff {p : Path} {a : Artifact} :
    readArtifact files p = .ok a ↔ a.location = p ∧ files.readText p = .ok a.content := by
  rw [readArtifact_eq_ok]
  constructor
  · rintro ⟨text, htext, rfl⟩
    exact ⟨rfl, htext⟩
  · rintro ⟨rfl, htext⟩
    refine ⟨a.content, htext, ?_⟩
    obtain ⟨location, content, identity, rfl⟩ := a
    rfl

theorem pairwise_of_readArtifacts {as : List Artifact}
    (h : readArtifacts files locations.toList = .ok as) :
    as.Pairwise fun a b => compareOn Artifact.location a b = .lt := by
  rw [readArtifacts_eq_mapM, Failure.mapM_eq_ok_iff] at h
  have hplaces : as.map Artifact.location = locations.toList := by
    rw [← List.forall₂_eq_eq_eq, List.forall₂_map_left_iff]
    exact (h.imp fun p a hpa => (readArtifact_eq_ok_iff.mp hpa).1).flip
  have hascending := locations.ascending
  rw [← hplaces, Ascending, List.pairwise_map] at hascending
  exact hascending

theorem mem_iff_of_readArtifacts {as : List Artifact}
    (h : readArtifacts files locations.toList = .ok as) {a : Artifact} :
    a ∈ as ↔ a.location ∈ locations.toList ∧ files.readText a.location = .ok a.content := by
  rw [mem_readArtifacts h]
  constructor
  · rintro ⟨p, hp, hpa⟩
    obtain ⟨rfl, htext⟩ := readArtifact_eq_ok_iff.mp hpa
    exact ⟨hp, htext⟩
  · rintro ⟨hp, htext⟩
    exact ⟨a.location, hp, readArtifact_eq_ok_iff.mpr ⟨rfl, htext⟩⟩

/-- What is in the set is read at the least of all places where something of its identity is read. -/
theorem mem_ofLocations_iff (h : ofLocations files locations = .ok s) {a : Artifact} :
    a ∈ s.artifacts ↔
      a.location ∈ locations.toList ∧ files.readText a.location = .ok a.content ∧
        ∀ p ∈ locations.toList, ∀ text, files.readText p = .ok text →
          ⟨p.lastName, sha256OfText text⟩ = a.identity → (compare a.location p).isLE = true := by
  -- The set keeps the first artifact of each identity, and they were read in the order of the places.
  obtain ⟨as, hread, rfl⟩ := exists_of_ofLocations h
  rw [mem_ofList_iff, find?_eq_some_iff_least (compareOn Artifact.location)
    (pairwise_of_readArtifacts hread), mem_iff_of_readArtifacts hread, and_assoc]
  refine and_congr_right fun _ => and_congr_right fun _ => ?_
  simp only [decide_true, true_and, decide_eq_true_eq]
  constructor
  · intro hleast p hp text htext hidentity
    have hmem : Artifact.ofContent p text ∈ as := (mem_iff_of_readArtifacts hread).mpr ⟨hp, htext⟩
    have hle := hleast _ hmem hidentity
    rw [compareOn, Artifact.location_ofContent] at hle
    exact hle
  · intro hleast b hb hidentity
    obtain ⟨hp, htext⟩ := (mem_iff_of_readArtifacts hread).mp hb
    exact hleast b.location hp b.content htext (b.identity_eq ▸ hidentity)

theorem mem_identitySet_ofLocations_iff (h : ofLocations files locations = .ok s)
    {i : ArtifactIdentity} :
    i ∈ s.identitySet.toList ↔
      ∃ p ∈ locations.toList, ∃ text, files.readText p = .ok text ∧
        i = ⟨p.lastName, sha256OfText text⟩ := by
  rw [toList_identitySet, identities, List.mem_map]
  constructor
  · rintro ⟨a, ha, rfl⟩
    obtain ⟨p, hp, text, htext, rfl⟩ := exists_place_of_mem h ha
    exact ⟨p, hp, text, htext, rfl⟩
  · rintro ⟨p, hp, text, htext, rfl⟩
    obtain ⟨as, hread, rfl⟩ := exists_of_ofLocations h
    have hmem : Artifact.ofContent p text ∈ as := (mem_iff_of_readArtifacts hread).mpr ⟨hp, htext⟩
    exact exists_mem_ofList hmem

/-- At one of the places, a text is read under a name. -/
def ReadUnder (files : FileTree) (places : OrderedSet Path) (name text : String) : Prop :=
  ∃ p ∈ places.toList, p.lastName = name ∧ files.readText p = .ok text

theorem mem_textsAt_iff {places : OrderedSet Path} {text : String} :
    text ∈ textsAt files places.toList ↔ ∃ name, ReadUnder files places name text := by
  rw [textsAt, List.mem_filterMap]
  constructor
  · rintro ⟨p, hp, htext⟩
    refine ⟨p.lastName, p, hp, rfl, ?_⟩
    cases hread : files.readText p with
    | error e => rw [hread] at htext; cases htext
    | ok other =>
      rw [hread] at htext
      rw [Option.some.inj htext]
  · rintro ⟨name, p, hp, -, htext⟩
    exact ⟨p, hp, by rw [htext]; rfl⟩

theorem exists_copies_of_readUnder {others : FileTree} {places : OrderedSet Path}
    (hs : ofLocations files locations = .ok s) (ht : ofLocations others places = .ok t)
    (hsub : ∀ name text, ReadUnder files locations name text → ReadUnder others places name text)
    (hc : CollisionFree (textsAt others places.toList)) :
    ∀ a ∈ s.artifacts, ∃ b ∈ t.artifacts, a.Copies b := by
  intro a ha
  obtain ⟨p, hp, text, htext, rfl⟩ := exists_place_of_mem hs ha
  obtain ⟨q, hq, hname, htext'⟩ := hsub p.lastName text ⟨p, hp, rfl, htext⟩
  have hidentity : (Artifact.ofContent p text).identity ∈ t.identitySet.toList :=
    (mem_identitySet_ofLocations_iff ht).mpr ⟨q, hq, text, htext', by rw [hname]; rfl⟩
  rw [toList_identitySet, identities, List.mem_map] at hidentity
  obtain ⟨b, hb, hbidentity⟩ := hidentity
  refine ⟨b, hb, Artifact.copies_of_identity_eq (hc.subset ?_) hbidentity.symm⟩
  have hcontent : b.content ∈ textsAt others places.toList :=
    contents_subset_textsAt ht (List.mem_map_of_mem hb)
  have hmem : text ∈ textsAt others places.toList :=
    mem_textsAt_iff.mpr ⟨p.lastName, q, hq, hname, htext'⟩
  intro x hx
  obtain rfl | rfl : x = text ∨ x = b.content := by
    simpa [Artifact.ofContent] using hx
  · exact hmem
  · exact hcontent

theorem holdSame_ofLocations {others : FileTree} {places : OrderedSet Path}
    (hs : ofLocations files locations = .ok s) (ht : ofLocations others places = .ok t)
    (hsame : ∀ name text,
      ReadUnder files locations name text ↔ ReadUnder others places name text)
    (hc : CollisionFree (textsAt files locations.toList)) : HoldSame s t where
  left := by
    refine exists_copies_of_readUnder hs ht (fun name text => (hsame name text).mp) (hc.subset ?_)
    intro text htext
    obtain ⟨name, hread⟩ := mem_textsAt_iff.mp htext
    exact mem_textsAt_iff.mpr ⟨name, (hsame name text).mpr hread⟩
  right b hb := by
    obtain ⟨a, ha, hab⟩ :=
      exists_copies_of_readUnder ht hs (fun name text => (hsame name text).mpr) hc b hb
    exact ⟨a, ha, hab.symm⟩

section Singleton

variable {p : Path} {text : String} (h : files.readText p = .ok text)

include h

theorem exists_ofLocations_singleton : ∃ s, ofLocations files (.singleton p) = .ok s :=
  exists_ofLocations_eq_ok_iff.mpr fun _ hq => ⟨text, List.mem_singleton.mp hq ▸ h⟩

theorem readUnder_singleton {name other : String} :
    ReadUnder files (.singleton p) name other ↔ p.lastName = name ∧ text = other := by
  simp [ReadUnder, OrderedSet.singleton, h]

theorem content_of_singleton (hs : ofLocations files (.singleton p) = .ok s) {a : Artifact}
    (ha : a ∈ s.artifacts) : a.content = text := by
  obtain ⟨hp, hread, -⟩ := (mem_ofLocations_iff hs).mp ha
  rw [List.mem_singleton.mp hp, h] at hread
  exact (Except.ok.inj hread).symm

theorem collisionFree_singleton :
    CollisionFree (textsAt files (OrderedSet.singleton p).toList) := by
  intro x hx y hy _
  obtain ⟨_, hxread⟩ := mem_textsAt_iff.mp hx
  obtain ⟨_, hyread⟩ := mem_textsAt_iff.mp hy
  exact ((readUnder_singleton h).mp hxread).2.symm.trans ((readUnder_singleton h).mp hyread).2

end Singleton

/-- What is read at places is a set in canonical form. There is one if and only if there is a text at
every place, and else the failure names the least place without one. The artifacts ascend strictly by
name and digest, their identities are those of all that is read, and each artifact is read at the least
of the places that have its identity. So sets are the same if and only if their identities are. -/
theorem artifacts_at_locations (files : FileTree) (locations : OrderedSet Path) :
    ((∃ s, ofLocations files locations = .ok s) ↔
      ∀ p ∈ locations.toList, ∃ text, files.readText p = .ok text) ∧
    (∀ e, ofLocations files locations = .error e ↔
      ∃ p ∈ locations.toList, ∃ cause, files.readText p = .error cause ∧ e = unreadable p cause ∧
        ∀ q ∈ locations.toList, compare q p = .lt → ∃ text, files.readText q = .ok text) ∧
    ∀ s, ofLocations files locations = .ok s →
      (s.artifacts.Pairwise fun a b => a.identity.fileName < b.identity.fileName ∨
        a.identity.fileName = b.identity.fileName ∧ a.identity.sha256 < b.identity.sha256) ∧
      (∀ i, i ∈ s.identitySet.toList ↔
        ∃ p ∈ locations.toList, ∃ text, files.readText p = .ok text ∧
          i = ⟨p.lastName, sha256OfText text⟩) ∧
      (∀ a, a ∈ s.artifacts ↔
        a.location ∈ locations.toList ∧ files.readText a.location = .ok a.content ∧
          ∀ p ∈ locations.toList, ∀ text, files.readText p = .ok text →
            ⟨p.lastName, sha256OfText text⟩ = a.identity → (compare a.location p).isLE = true) ∧
      ∀ others places t, ofLocations others places = .ok t →
        ((s == t) = true ↔ s.identitySet = t.identitySet) := by
  refine ⟨exists_ofLocations_eq_ok_iff, fun e => ofLocations_eq_error_iff, fun s h => ?_⟩
  refine ⟨?_, fun i => mem_identitySet_ofLocations_iff h, fun a => mem_ofLocations_iff h, ?_⟩
  · exact s.ascending.imp fun hlt => ArtifactIdentity.compare_eq_lt_iff.mp hlt
  · intro others places t _
    rw [beq_iff, identitySet_inj]

/-- Two directories with the same text under the same name. -/
def copiedFiles : FileTree where
  workingDirectory := []
  nodes := .ofList
    [(["a"], .directory), (["a", "m"], .file (Bytes.ofText "x")), (["b"], .directory),
      (["b", "m"], .file (Bytes.ofText "x"))]

def firstPlace : Path := ⟨"a/m"⟩

def secondPlace : Path := ⟨"b/m"⟩

def bothPlaces : OrderedSet Path :=
  ⟨[firstPlace, secondPlace], List.pairwise_pair.mpr (by decide +kernel)⟩

theorem read_bothPlaces : ∀ p ∈ bothPlaces.toList,
    copiedFiles.readText p = .ok "x" ∧ p.lastName = "m" ∧ (compare firstPlace p).isLE = true := by
  intro p h
  obtain rfl | rfl : p = firstPlace ∨ p = secondPlace := by simpa [bothPlaces] using h
  · decide +kernel
  · decide +kernel

theorem identities_of_bothPlaces {places : OrderedSet Path}
    (hsub : places.toList ⊆ bothPlaces.toList) (hmem : secondPlace ∈ places.toList)
    (i : ArtifactIdentity) :
    (∃ p ∈ places.toList, ∃ text, copiedFiles.readText p = .ok text ∧
      i = ⟨p.lastName, sha256OfText text⟩) ↔ i = ⟨"m", sha256OfText "x"⟩ := by
  constructor
  · rintro ⟨p, hp, text, htext, rfl⟩
    obtain ⟨hread, hname, -⟩ := read_bothPlaces p (hsub hp)
    rw [hname, Except.ok.inj (htext.symm.trans hread)]
  · rintro rfl
    obtain ⟨hread, hname, -⟩ := read_bothPlaces secondPlace (hsub hmem)
    exact ⟨secondPlace, hmem, "x", hread, by rw [hname]⟩

theorem artifacts_at_locations_copied :
    ∃ s t, ofLocations copiedFiles bothPlaces = .ok s ∧
      ofLocations copiedFiles (.singleton secondPlace) = .ok t ∧
      Artifact.ofContent firstPlace "x" ∈ s.artifacts ∧
      Artifact.ofContent secondPlace "x" ∉ s.artifacts ∧ (s == t) = true := by
  have hfirst : firstPlace ∈ bothPlaces.toList := by simp [bothPlaces]
  have hsecond : secondPlace ∈ bothPlaces.toList := by simp [bothPlaces]
  have hsub : (OrderedSet.singleton secondPlace).toList ⊆ bothPlaces.toList :=
    fun p hp => List.mem_singleton.mp hp ▸ hsecond
  obtain ⟨hok, -, hset⟩ := artifacts_at_locations copiedFiles bothPlaces
  obtain ⟨hok', -, hset'⟩ := artifacts_at_locations copiedFiles (.singleton secondPlace)
  obtain ⟨s, hs⟩ := hok.mpr fun p hp => ⟨"x", (read_bothPlaces p hp).1⟩
  obtain ⟨t, ht⟩ := hok'.mpr fun p hp => ⟨"x", (read_bothPlaces p (hsub hp)).1⟩
  obtain ⟨-, hidentities, hmem, hsame⟩ := hset s hs
  obtain ⟨-, hidentities', -, -⟩ := hset' t ht
  refine ⟨s, t, hs, ht, ?_, ?_, ?_⟩
  · refine (hmem _).mpr ⟨hfirst, (read_bothPlaces firstPlace hfirst).1, fun p hp _ _ _ => ?_⟩
    exact (read_bothPlaces p hp).2.2
  · intro hin
    obtain ⟨-, -, hleast⟩ := (hmem _).mp hin
    have hle := hleast firstPlace hfirst "x" (read_bothPlaces firstPlace hfirst).1 rfl
    revert hle
    decide +kernel
  · refine (hsame copiedFiles _ t ht).mpr (OrderedSet.ext ?_)
    apply eq_of_mem_iff_of_ascending compare s.identitySet.ascending t.identitySet.ascending
    intro i
    rw [hidentities, hidentities', identities_of_bothPlaces (List.Subset.refl _) hsecond,
      identities_of_bothPlaces hsub (List.mem_singleton.mpr rfl)]

end ArtifactSet

end FormatterModules
