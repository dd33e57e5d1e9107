import Mathlib.Data.List.Forall2
import FormatterModules.Artifact.Set
import FormatterModules.Proofs.Failure.Sequence

namespace FormatterModules

/-- Among these texts, different ones have different digests. -/
def CollisionFree (texts : List String) : Prop :=
  ∀ s ∈ texts, ∀ t ∈ texts, sha256OfText s = sha256OfText t → s = t

theorem CollisionFree.subset {texts others : List String} (h : CollisionFree texts)
    (hs : others ⊆ texts) : CollisionFree others :=
  fun s hs' t ht' => h s (hs hs') t (hs ht')

theorem collisionFree_pair {s t : String} (h : sha256OfText s = sha256OfText t → s = t) :
    CollisionFree [s, t] := by
  intro x hx y hy hxy
  simp only [List.mem_cons, List.not_mem_nil, or_false] at hx hy
  rcases hx with rfl | rfl <;> rcases hy with rfl | rfl
  · rfl
  · exact h hxy
  · exact (h hxy.symm).symm
  · rfl

instance : Std.LawfulEqOrd ArtifactIdentity where
  eq_of_compare {a b} h := by
    obtain ⟨hname, hdigest⟩ := compareLex_eq_eq.mp h
    cases a
    cases b
    exact congrArg₂ ArtifactIdentity.mk (compareOn_eq_eq.mp hname) (compareOn_eq_eq.mp hdigest)

namespace Artifact

/-- The artifacts are copies of each other, wherever they lie. -/
structure Copies (a b : Artifact) : Prop where
  identity : a.identity = b.identity
  content : a.content = b.content

theorem copies_of_identity_eq {a b : Artifact} (hc : CollisionFree [a.content, b.content])
    (h : a.identity = b.identity) : Copies a b := by
  refine ⟨h, hc _ (by simp) _ (by simp) ?_⟩
  have ha : a.identity.sha256 = sha256OfText a.content :=
    congrArg ArtifactIdentity.sha256 a.identity_eq
  have hb : b.identity.sha256 = sha256OfText b.content :=
    congrArg ArtifactIdentity.sha256 b.identity_eq
  rw [← ha, ← hb, h]

theorem copies_of_identities_eq {as bs : List Artifact}
    (hc : CollisionFree (as.map content ++ bs.map content))
    (h : as.map Artifact.identity = bs.map Artifact.identity) : List.Forall₂ Copies as bs := by
  induction as generalizing bs with
  | nil =>
    rw [List.map_nil, eq_comm, List.map_eq_nil_iff] at h
    rw [h]
    exact .nil
  | cons a as ih =>
    cases bs with
    | nil => cases h
    | cons b bs =>
      obtain ⟨hab, htail⟩ := List.cons.inj h
      refine .cons (copies_of_identity_eq (hc.subset ?_) hab) (ih (hc.subset ?_) htail)
      · simp
      · intro text ht
        rcases List.mem_append.mp ht with ht | ht <;> simp [ht]

theorem Copies.symm {a b : Artifact} (h : Copies a b) : Copies b a :=
  ⟨h.identity.symm, h.content.symm⟩

theorem copies_ofContent {p q : Path} (h : p.lastName = q.lastName) (text : String) :
    Copies (ofContent p text) (ofContent q text) :=
  ⟨congrArg (ArtifactIdentity.mk · (sha256OfText text)) h, rfl⟩

theorem Copies.compare_eq {a b x y : Artifact} (h : Copies a b) (h' : Copies x y) :
    compare a x = compare b y := by
  change compare a.identity x.identity = compare b.identity y.identity
  rw [h.identity, h'.identity]

theorem Copies.insert {a b : Artifact} (h : Copies a b) {as bs : List Artifact}
    (hs : List.Forall₂ Copies as bs) :
    List.Forall₂ Copies (Ascending.insert a as) (Ascending.insert b bs) := by
  induction hs with
  | nil => exact .cons h .nil
  | @cons x y as bs hxy hs ih =>
    rw [Ascending.insert, Ascending.insert, h.compare_eq hxy]
    cases compare b y with
    | lt => exact .cons h (.cons hxy hs)
    | eq => exact .cons hxy hs
    | gt => exact .cons hxy ih

end Artifact

namespace ArtifactSet

/-- Sets with copies of the same artifacts. -/
def Copies (s t : ArtifactSet) : Prop := List.Forall₂ Artifact.Copies s.artifacts t.artifacts

theorem copies_ofList {as bs : List Artifact} (h : List.Forall₂ Artifact.Copies as bs) :
    Copies (ofList as) (ofList bs) := by
  suffices hfold : ∀ s t : ArtifactSet, Copies s t → Copies (as.foldl insert s) (bs.foldl insert t) by
    exact hfold empty empty .nil
  induction h with
  | nil => exact fun s t hst => hst
  | cons hab _ ih => exact fun s t hst => ih _ _ (hab.insert hst)

theorem Copies.symm {s t : ArtifactSet} (h : Copies s t) : Copies t s :=
  List.Forall₂.flip (h.imp fun _ _ hab => hab.symm)

theorem Copies.identities_eq {s t : ArtifactSet} (h : Copies s t) : s.identities = t.identities := by
  rw [identities, identities, ← List.forall₂_eq_eq_eq, List.forall₂_map_left_iff,
    List.forall₂_map_right_iff]
  exact h.imp fun _ _ hab => hab.identity

/-- The texts of the artifacts. -/
def contents (s : ArtifactSet) : List String := s.artifacts.map Artifact.content

theorem identities_ascending (s : ArtifactSet) : Ascending s.identities := by
  unfold identities Ascending
  rw [List.pairwise_map]
  exact s.ascending

@[simp] theorem toList_identitySet (s : ArtifactSet) : s.identitySet.toList = s.identities :=
  OrderedSet.toList_ofList s.identities_ascending

theorem identitySet_inj {s t : ArtifactSet} :
    s.identitySet = t.identitySet ↔ s.identities = t.identities := by
  constructor
  · intro h
    rw [← toList_identitySet, h, toList_identitySet]
  · intro h
    exact OrderedSet.ext (by simpa using h)

theorem beq_iff {s t : ArtifactSet} : (s == t) = true ↔ s.identities = t.identities := by
  change (s.identities == t.identities) = true ↔ _
  exact beq_iff_eq

/-- Both sets hold the same artifacts, apart from where these lie. -/
structure HoldSame (s t : ArtifactSet) : Prop where
  left : ∀ a ∈ s.artifacts, ∃ b ∈ t.artifacts, a.Copies b
  right : ∀ b ∈ t.artifacts, ∃ a ∈ s.artifacts, a.Copies b

theorem HoldSame.symm {s t : ArtifactSet} (h : HoldSame s t) : HoldSame t s where
  left b hb := (h.right b hb).imp fun _ ha => ⟨ha.1, ha.2.symm⟩
  right a ha := (h.left a ha).imp fun _ hb => ⟨hb.1, hb.2.symm⟩

theorem HoldSame.copies {s t : ArtifactSet} (h : HoldSame s t) : Copies s t := by
  have hidentities : s.identities = t.identities := by
    apply eq_of_mem_iff_of_ascending compare s.identities_ascending t.identities_ascending
    intro i
    rw [identities, identities, List.mem_map, List.mem_map]
    constructor
    · rintro ⟨a, ha, rfl⟩
      obtain ⟨b, hb, hab⟩ := h.left a ha
      exact ⟨b, hb, hab.identity.symm⟩
    · rintro ⟨b, hb, rfl⟩
      obtain ⟨a, ha, hab⟩ := h.right b hb
      exact ⟨a, ha, hab.identity⟩
  have hsame : List.Forall₂ (fun a b : Artifact => a.identity = b.identity) s.artifacts t.artifacts := by
    rw [identities, identities, ← List.forall₂_eq_eq_eq, List.forall₂_map_left_iff,
      List.forall₂_map_right_iff] at hidentities
    exact hidentities
  rw [List.forall₂_iff_zip] at hsame
  refine List.forall₂_iff_zip.mpr ⟨hsame.1, fun {a b} hzip => ?_⟩
  obtain ⟨ha, hb⟩ := List.of_mem_zip hzip
  obtain ⟨b', hb', hab'⟩ := h.left a ha
  have hequal : compare b' b = .eq :=
    compareOn_eq_eq.mpr (hab'.identity.symm.trans (hsame.2 hzip))
  rwa [← t.ascending.eq_of_compare_eq hb' hb hequal]

theorem copies_of_identities_eq {s t : ArtifactSet} (hc : CollisionFree (s.contents ++ t.contents))
    (h : s.identities = t.identities) : List.Forall₂ Artifact.Copies s.artifacts t.artifacts :=
  Artifact.copies_of_identities_eq hc h

theorem compare_eq_iff {a b : Artifact} : compare a b = .eq ↔ a.identity = b.identity :=
  compareOn_eq_eq

theorem artifacts_ofList (as : List Artifact) :
    (ofList as).artifacts = as.foldl (fun sorted a => Ascending.insert a sorted) [] :=
  (List.foldl_hom artifacts fun _ _ => rfl).symm

theorem mem_ofList_iff {as : List Artifact} {a : Artifact} :
    a ∈ (ofList as).artifacts ↔ as.find? (fun b => b.identity = a.identity) = some a := by
  have hfind : (ofList as).artifacts.find? (fun b => compare b a == .eq) =
      as.find? fun b => compare b a == .eq := by
    rw [artifacts_ofList]
    exact Ascending.find?_foldl_insert a as List.Pairwise.nil
  have hself : a ∈ (ofList as).artifacts ↔
      (ofList as).artifacts.find? (fun b => compare b a == .eq) = some a := by
    rw [Ascending.find?_eq_some_iff (ofList as).ascending]
    simp
  have hkind : (fun b : Artifact => compare b a == .eq) =
      fun b => decide (b.identity = a.identity) := by
    funext b
    rw [Bool.eq_iff_iff, beq_iff_eq, compare_eq_iff, decide_eq_true_iff]
  rw [hself, hfind, hkind]

theorem mem_of_mem_ofList {as : List Artifact} {a : Artifact} (h : a ∈ (ofList as).artifacts) :
    a ∈ as :=
  List.mem_of_find?_eq_some (mem_ofList_iff.mp h)

theorem exists_mem_ofList {as : List Artifact} {a : Artifact} (h : a ∈ as) :
    ∃ b ∈ (ofList as).artifacts, b.identity = a.identity := by
  have hsome : (as.find? fun b => b.identity = a.identity).isSome = true :=
    List.find?_isSome.mpr ⟨a, h, by simp⟩
  obtain ⟨b, hb⟩ := Option.isSome_iff_exists.mp hsome
  have hidentity : b.identity = a.identity := by simpa using List.find?_some hb
  exact ⟨b, mem_ofList_iff.mpr (by rw [hidentity]; exact hb), hidentity⟩

theorem readArtifacts_eq_mapM (files : FileTree) (places : List Path) :
    readArtifacts files places = places.mapM (readArtifact files) := by
  induction places with
  | nil => rfl
  | cons p places ih =>
    unfold readArtifacts
    cases hp : readArtifact files p with
    | error e => rw [Failure.mapM_cons_of_error hp]
    | ok a => rw [Failure.mapM_cons_of_ok hp, ih]

theorem mem_readArtifacts {files : FileTree} {places : List Path} {as : List Artifact}
    (h : readArtifacts files places = .ok as) {a : Artifact} :
    a ∈ as ↔ ∃ p ∈ places, readArtifact files p = .ok a := by
  rw [readArtifacts_eq_mapM] at h
  exact Failure.mem_iff_of_mapM_eq_ok h

section Places

variable {files : FileTree} {locations : OrderedSet Path} {artifacts : ArtifactSet}

/-- The texts that are read at places. -/
def textsAt (files : FileTree) (places : List Path) : List String :=
  places.filterMap fun p => (files.readText p).toOption

theorem readArtifact_eq_ok {p : Path} {a : Artifact} :
    readArtifact files p = .ok a ↔ ∃ text, files.readText p = .ok text ∧ a = .ofContent p text := by
  unfold readArtifact
  cases files.readText p with
  | error e => simp
  | ok text => simp [eq_comm]

theorem exists_of_ofLocations (h : ofLocations files locations = .ok artifacts) :
    ∃ as, readArtifacts files locations.toList = .ok as ∧ artifacts = ofList as := by
  unfold ofLocations at h
  cases hread : readArtifacts files locations.toList with
  | error e => rw [hread] at h; cases h
  | ok as =>
    rw [hread] at h
    cases h
    exact ⟨as, rfl, rfl⟩

theorem exists_place_of_mem (h : ofLocations files locations = .ok artifacts) {a : Artifact}
    (ha : a ∈ artifacts.artifacts) :
    ∃ p ∈ locations.toList, ∃ text, files.readText p = .ok text ∧ a = .ofContent p text := by
  obtain ⟨as, hread, rfl⟩ := exists_of_ofLocations h
  obtain ⟨p, hp, hpa⟩ := (mem_readArtifacts hread).mp (mem_of_mem_ofList ha)
  exact ⟨p, hp, readArtifact_eq_ok.mp hpa⟩

theorem contents_subset_textsAt (h : ofLocations files locations = .ok artifacts) :
    artifacts.contents ⊆ textsAt files locations.toList := by
  intro content hcontent
  obtain ⟨a, ha, rfl⟩ := List.mem_map.mp hcontent
  obtain ⟨p, hp, text, htext, rfl⟩ := exists_place_of_mem h ha
  refine List.mem_filterMap.mpr ⟨p, hp, ?_⟩
  rw [htext]
  rfl

theorem isEmpty_ofLocations (h : ofLocations files locations = .ok artifacts)
    (hne : locations.isEmpty = false) : artifacts.isEmpty = false := by
  obtain ⟨as, hread, rfl⟩ := exists_of_ofLocations h
  have hlength : locations.toList.length = as.length := by
    rw [readArtifacts_eq_mapM] at hread
    exact (Failure.mapM_eq_ok_iff.mp hread).length_eq
  cases has : as with
  | nil =>
    rw [has, List.length_nil, List.length_eq_zero_iff] at hlength
    rw [OrderedSet.isEmpty, hlength] at hne
    cases hne
  | cons a rest =>
    have ha : a ∈ a :: rest := List.mem_cons_self
    obtain ⟨b, hb, -⟩ := exists_mem_ofList ha
    rw [isEmpty, List.isEmpty_eq_false_iff]
    exact List.ne_nil_of_mem hb

end Places

end ArtifactSet

end FormatterModules
