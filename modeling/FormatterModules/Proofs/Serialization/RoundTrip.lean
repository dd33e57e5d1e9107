import FormatterModules.Proofs.Coordinate.Grammar
import FormatterModules.Proofs.Json.Records
import FormatterModules.Proofs.Ordered.Map
import FormatterModules.Proofs.Version.Text
import FormatterModules.Serialization

namespace FormatterModules

open Json

theorem Version.readsShuffled : ReadsShuffled toJson ofJson := by
  intro v j h
  have hread : ofArgument v.render = .ok v := by rw [ofArgument, parse?_render]
  rw [eq_of_shuffled_string h, ofJson, toText]
  dsimp only
  rw [hread]
  rfl

theorem Coordinate.readsShuffled : ReadsShuffled toJson ofJson := by
  intro c j h
  rw [eq_of_shuffled_string h, ofJson, toText]
  dsimp only
  rw [parse_eq_ok_iff.mpr c.trimmed_render]
  rfl

namespace ArtifactIdentity

theorem readMember_canSwap : CanSwap readMember := by
  intro fields between result a b ha hb
  unfold readMember at ha hb ⊢
  -- A field is not filled twice, and the fields do not see each other.
  split at ha <;> split at hb <;> simp only [map_fill_eq_ok_iff, Except.ok.injEq] at ha hb ⊢
  all_goals grind

theorem readsShuffled : ReadsShuffled toJson ofJson := by
  intro d j h
  obtain ⟨changed, others, rfl, hchanged, hperm⟩ := exists_of_shuffled_object h
  obtain ⟨fileName, rest, rfl, hfileName, hrest⟩ := exists_of_sameMembers_cons hchanged
  obtain ⟨sha256, rest, rfl, hsha256, hrest⟩ := exists_of_sameMembers_cons hrest
  obtain rfl := sameMembers_nil_iff.mp hrest
  obtain rfl := eq_of_shuffled_string hfileName
  obtain rfl := eq_of_shuffled_string hsha256
  have hfields : [("file_name", Json.string d.fileName), ("sha256", .string d.sha256)].foldlM
      readMember (none, none) = .ok (some d.fileName, some d.sha256) := rfl
  rw [ofJson, readMember_canSwap.foldlM_perm hperm hfields]
  rfl

end ArtifactIdentity

namespace Preferences

theorem readMember_canSwap : CanSwap readMember := by
  intro fields between result a b ha hb
  unfold readMember at ha hb ⊢
  split at ha <;> split at hb <;> simp only [fill_eq_ok_iff, Except.ok.injEq] at ha hb ⊢
  all_goals grind

theorem readEntries_map (pairs : List (String × String)) (entries : OrderedMap String String) :
    readEntries entries (pairs.map fun e => (e.1, .string e.2)) =
      .ok (pairs.foldl (fun m e => m.insert e.1 e.2) entries) := by
  induction pairs generalizing entries with
  | nil => rfl
  | cons e pairs ih => exact ih (entries.insert e.1 e.2)

theorem entries_readsShuffled : ReadsShuffled
    (fun entries : OrderedMap String String =>
      .object (entries.toList.map fun e => (e.1, .string e.2))) entriesOfJson := by
  intro entries j h
  obtain ⟨changed, others, rfl, hchanged, hperm⟩ := exists_of_shuffled_object h
  rw [eq_of_sameMembers_strings hchanged] at hperm
  obtain ⟨pairs, hpairs, rfl⟩ := exists_perm_of_map_perm hperm
  rw [entriesOfJson, readEntries_map]
  exact congrArg Except.ok (entries.ofList_of_perm hpairs)

theorem readsShuffled : ReadsShuffled toJson ofJson := by
  intro p j h
  obtain ⟨changed, others, rfl, hchanged, hperm⟩ := exists_of_shuffled_object h
  obtain ⟨entries, rest, rfl, hentries, hrest⟩ := exists_of_sameMembers_cons hchanged
  obtain rfl := sameMembers_nil_iff.mp hrest
  have hread : entriesOfJson entries = .ok p.entries := entries_readsShuffled p.entries _ hentries
  have hfield : readMember none ("entries", entries) = .ok (some p.entries) := by
    change fill "entries" entriesOfJson none entries = _
    exact fill_eq_ok_iff.mpr ⟨rfl, p.entries, hread, rfl⟩
  have hfields : [("entries", entries)].foldlM readMember none = .ok (some p.entries) :=
    foldlM_cons_eq_ok_iff.mpr ⟨_, hfield, rfl⟩
  rw [ofJson, readMember_canSwap.foldlM_perm hperm hfields]
  rfl

end Preferences

namespace Manifest.Declaration

theorem readMember_canSwap : CanSwap readMember := by
  intro fields between result a b ha hb
  unfold readMember at ha hb ⊢
  split at ha <;> split at hb <;> simp only [map_fill_eq_ok_iff, reduceCtorEq] at ha hb ⊢
  all_goals grind

theorem readsShuffled : ReadsShuffled toJson ofJson := by
  intro c j h
  obtain ⟨changed, others, rfl, hchanged, hperm⟩ := exists_of_shuffled_object h
  obtain ⟨name, rest, rfl, hname, hrest⟩ := exists_of_sameMembers_cons hchanged
  obtain ⟨entry, rest, rfl, hentry, hrest⟩ := exists_of_sameMembers_cons hrest
  obtain ⟨methods, rest, rfl, hmethods, hrest⟩ := exists_of_sameMembers_cons hrest
  obtain rfl := sameMembers_nil_iff.mp hrest
  obtain rfl := eq_of_shuffled_string hname
  obtain rfl := eq_of_shuffled_string hentry
  have hlast : readMember ⟨some c.name, some c.entry, none⟩ ("methods", methods) =
      .ok ⟨some c.name, some c.entry, some c.methods⟩ :=
    map_fill_eq_ok_iff.mpr ⟨rfl, _, toList_shuffled toText_shuffled _ _ hmethods, rfl⟩
  have hfields : [("name", Json.string c.name), ("entry", .string c.entry), ("methods", methods)].foldlM
      readMember {} = .ok ⟨some c.name, some c.entry, some c.methods⟩ :=
    foldlM_cons_eq_ok_iff.mpr ⟨_, rfl, foldlM_cons_eq_ok_iff.mpr ⟨_, rfl,
      foldlM_cons_eq_ok_iff.mpr ⟨_, hlast, rfl⟩⟩⟩
  rw [ofJson, readMember_canSwap.foldlM_perm hperm hfields]
  rfl

end Manifest.Declaration

namespace Manifest.Header

theorem readMember_canSwap : CanSwap readMember := by
  intro fields between result a b ha hb
  unfold readMember at ha hb ⊢
  split at ha <;> split at hb <;> simp only [map_fill_eq_ok_iff, reduceCtorEq] at ha hb ⊢
  all_goals grind

theorem readsShuffled : ReadsShuffled toJson ofJson := by
  intro header j h
  obtain ⟨changed, others, rfl, hchanged, hperm⟩ := exists_of_shuffled_object h
  obtain ⟨group, rest, rfl, hgroup, hrest⟩ := exists_of_sameMembers_cons hchanged
  obtain ⟨name, rest, rfl, hname, hrest⟩ := exists_of_sameMembers_cons hrest
  obtain ⟨version, rest, rfl, hversion, hrest⟩ := exists_of_sameMembers_cons hrest
  obtain ⟨requires, rest, rfl, hrequires, hrest⟩ := exists_of_sameMembers_cons hrest
  obtain rfl := sameMembers_nil_iff.mp hrest
  obtain rfl := eq_of_shuffled_string hgroup
  obtain rfl := eq_of_shuffled_string hname
  obtain rfl := eq_of_shuffled_string hversion
  have hlast : readMember ⟨some header.group, some header.name, some header.version, none⟩
      ("requires", requires) =
      .ok ⟨some header.group, some header.name, some header.version, some header.requires⟩ :=
    map_fill_eq_ok_iff.mpr
      ⟨rfl, _, toList_shuffled Coordinate.readsShuffled _ _ hrequires, rfl⟩
  have hfields : [("group", Json.string header.group), ("name", .string header.name),
      ("version", .string header.version), ("requires", requires)].foldlM readMember {} =
      .ok ⟨some header.group, some header.name, some header.version, some header.requires⟩ :=
    foldlM_cons_eq_ok_iff.mpr ⟨_, rfl, foldlM_cons_eq_ok_iff.mpr ⟨_, rfl,
      foldlM_cons_eq_ok_iff.mpr ⟨_, rfl, foldlM_cons_eq_ok_iff.mpr ⟨_, hlast, rfl⟩⟩⟩⟩
  rw [ofJson, readMember_canSwap.foldlM_perm hperm hfields]
  rfl

end Manifest.Header

namespace Manifest

theorem readMember_canSwap : CanSwap readMember := by
  intro fields between result a b ha hb
  unfold readMember at ha hb ⊢
  split at ha <;> split at hb <;> simp only [map_fill_eq_ok_iff, reduceCtorEq] at ha hb ⊢
  all_goals grind

theorem readsShuffled : ReadsShuffled toJson ofJson := by
  intro m j h
  obtain ⟨changed, others, rfl, hchanged, hperm⟩ := exists_of_shuffled_object h
  obtain ⟨header, rest, rfl, hheader, hrest⟩ := exists_of_sameMembers_cons hchanged
  obtain ⟨classes, rest, rfl, hclasses, hrest⟩ := exists_of_sameMembers_cons hrest
  obtain rfl := sameMembers_nil_iff.mp hrest
  have hfirst : readMember {} ("module", header) = .ok ⟨some m.header, none⟩ :=
    map_fill_eq_ok_iff.mpr ⟨rfl, _, Header.readsShuffled _ _ hheader, rfl⟩
  have hlast : readMember ⟨some m.header, none⟩ ("class", classes) =
      .ok ⟨some m.header, some m.classes⟩ :=
    map_fill_eq_ok_iff.mpr
      ⟨rfl, _, toList_shuffled Declaration.readsShuffled _ _ hclasses, rfl⟩
  have hfields : [("module", header), ("class", classes)].foldlM readMember {} =
      .ok ⟨some m.header, some m.classes⟩ :=
    foldlM_cons_eq_ok_iff.mpr ⟨_, hfirst, foldlM_cons_eq_ok_iff.mpr ⟨_, hlast, rfl⟩⟩
  rw [ofJson, readMember_canSwap.foldlM_perm hperm hfields]
  rfl

end Manifest

/-- Values are read back from what is written of them. What is written of a value that was read, in
whatever form it came, is accepted again and written in the same way. -/
structure ReadsBack {α : Type} (write : α → Json) (read : Json → Except DecodeError α) : Prop where
  readsShuffled : ReadsShuffled write read
  written_again : ∀ j v, read j = .ok v → ∀ k, Shuffled (write v) k →
    (read k).map write = .ok (write v)

theorem readsBack_of_readsShuffled {α : Type} {write : α → Json}
    {read : Json → Except DecodeError α} (h : ReadsShuffled write read) : ReadsBack write read where
  readsShuffled := h
  written_again _ v _ k hk := by
    rw [h v k hk]
    rfl

/-- Versions, coordinates, identities of artifacts, preferences and manifests are the same again when
they are read from what is written of them, in whatever order the members of objects stand there. A JSON
value that can be read as one of them, and is written in another form, is written in this form from then
on. -/
theorem serialized_values_read_back :
    ReadsBack Version.toJson Version.ofJson ∧
    ReadsBack Coordinate.toJson Coordinate.ofJson ∧
    ReadsBack ArtifactIdentity.toJson ArtifactIdentity.ofJson ∧
    ReadsBack Preferences.toJson Preferences.ofJson ∧
    ReadsBack Manifest.toJson Manifest.ofJson :=
  ⟨readsBack_of_readsShuffled Version.readsShuffled,
    readsBack_of_readsShuffled Coordinate.readsShuffled,
    readsBack_of_readsShuffled ArtifactIdentity.readsShuffled,
    readsBack_of_readsShuffled Preferences.readsShuffled,
    readsBack_of_readsShuffled Manifest.readsShuffled⟩

/-- A declaration without methods in an array has the usual one, and an empty list stays empty. -/
example :
    (Manifest.Declaration.ofJson (.array [.string "n", .string "e"])).toOption =
        some ⟨"n", "e", ["format"]⟩ ∧
      (Manifest.Declaration.ofJson (.array [.string "n", .string "e", .array []])).toOption =
        some ⟨"n", "e", []⟩ := by
  decide

end FormatterModules
