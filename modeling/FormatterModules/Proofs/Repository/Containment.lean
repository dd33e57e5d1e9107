import FormatterModules.Proofs.FileTree.Below
import FormatterModules.Proofs.Repository.Closure
import FormatterModules.Proofs.Repository.SharedFiles

namespace FormatterModules

/-- One comes to the path from the root through one or more entries by their names. -/
def Path.StrictlyBelow (p root : Path) : Prop :=
  ∃ names : List String, names ≠ [] ∧ (∀ n ∈ names, IsEntryName n) ∧
    p.components = root.components ++ names.map .named

namespace Repository

variable {r : Repository} {files others : FileTree}

theorem components_pathOf (r : Repository) (c : Coordinate) :
    (r.pathOf c).components =
      r.root.components ++ (c.directories ++ [c.artifact, c.version, c.fileName]).map .named := by
  rw [pathOf_eq, r.root.components_joinNames c.isEntryName_of_mem_steps]
  rfl

theorem pathOf_strictlyBelow (r : Repository) (c : Coordinate) :
    (r.pathOf c).StrictlyBelow r.root :=
  ⟨c.steps, by simp [Coordinate.steps], c.isEntryName_of_mem_steps, r.components_pathOf c⟩

theorem manifest_congr {c : Coordinate} (h : files.SameAt (r.pathOf c) others (r.pathOf c)) :
    r.manifest others c = r.manifest files c := by
  unfold manifest FileTree.isFile FileTree.readText FileTree.read
  dsimp only
  obtain ⟨e, e', hfind, hother⟩ | ⟨node, hfind, hother⟩ := FileTree.cases_of_toOption_eq h
  · rw [hfind, hother]
    rfl
  · rw [hfind, hother]

def SameReached (r : Repository) (files others : FileTree) (pending : List Coordinate) : Prop :=
  ∀ c ∈ pending, ∀ d, r.Reaches files c d → files.SameAt (r.pathOf d) others (r.pathOf d)

namespace SameReached

variable {c : Coordinate} {pending : List Coordinate}

theorem manifest (h : SameReached r files others (c :: pending)) :
    r.manifest others c = r.manifest files c :=
  manifest_congr (h c List.mem_cons_self c .refl)

theorem tail (h : SameReached r files others (c :: pending)) : SameReached r files others pending :=
  fun d hd => h d (List.mem_cons_of_mem c hd)

theorem requires (h : SameReached r files others (c :: pending)) {m : Manifest}
    (hread : r.manifest files c = .ok m) : SameReached r files others m.header.requires := by
  intro q hq d hreach
  have hmodule := (r.manifest_eq_ok files).mp hread
  exact h c List.mem_cons_self d (.head ⟨m, hmodule, hq⟩ hreach)

end SameReached

theorem Collects.congr {pending : List Coordinate} {s : Collection}
    {out : Except Failure Collection} (h : r.Collects files pending s out)
    (hsame : SameReached r files others pending) : r.Collects others pending s out := by
  -- Each visit looks at the place of its coordinate only, and all that is visited is reached.
  induction h with
  | done => exact .done
  | skip visited _ ih => exact .skip visited (ih hsame.tail)
  | stop unvisited failed => exact .stop unvisited (hsame.manifest.trans failed)
  | enter unvisited read _ _ ihr ihn =>
    have hrequirements := ihr (hsame.requires read)
    exact .enter unvisited (hsame.manifest.trans read) hrequirements (ihn hsame.tail)
  | stopWithin unvisited read _ ih =>
    have hrequirements := ih (hsame.requires read)
    exact .stopWithin unvisited (hsame.manifest.trans read) hrequirements

theorem closure_congr {c : Coordinate}
    (h : ∀ d, r.Reaches files c d → files.SameAt (r.pathOf d) others (r.pathOf d)) :
    r.closure others c = r.closure files c := by
  obtain ⟨out, hcollects⟩ := exists_collects_single r files c
  have hsame : SameReached r files others [c] := fun c' hc' => List.mem_singleton.mp hc' ▸ h
  rw [(hcollects.congr hsame).closure_eq, hcollects.closure_eq]

theorem closure_eq_of_nodes {place place' : Place} (hplace : files.place r.root = .ok place)
    (hplace' : others.place r.root = .ok place')
    (hnodes : ∀ names, files.node? (place ++ names) = others.node? (place' ++ names))
    (c : Coordinate) : r.closure others c = r.closure files c := by
  refine closure_congr fun d _ => ?_
  rw [pathOf_eq]
  exact FileTree.sameAt_joinNames hplace hplace' hnodes d.isEntryName_of_mem_steps fun _ => Iff.rfl

/-- The path of a module is that of the root, the directories of the group and then the artifact, the
version and the name of the file, none of which is the directory above, absolute, or more than one
name. So the places of all coordinates that are reached are below the root, the places that a
repository answers among them, and what lies elsewhere makes no difference to the answer. -/
theorem places_below_root (r : Repository) (files : FileTree) (c : Coordinate) :
    (r.pathOf c).components =
      r.root.components ++ (c.directories ++ [c.artifact, c.version, c.fileName]).map .named ∧
    (∀ name ∈ c.directories ++ [c.artifact, c.version, c.fileName],
      name ≠ "" ∧ name ≠ "." ∧ name ≠ ".." ∧ '/' ∉ name.toList ∧
        (Path.mk name).isAbsolute = false) ∧
    (∀ d, r.Reaches files c d → (r.pathOf d).StrictlyBelow r.root) ∧
    (∀ found, r.closure files c = .ok found → ∀ p ∈ found.toList, p.StrictlyBelow r.root) ∧
    ∀ others : FileTree,
      (∀ d, r.Reaches files c d → files.SameAt (r.pathOf d) others (r.pathOf d)) →
        r.closure others c = r.closure files c := by
  refine ⟨r.components_pathOf c, fun name hname => ?_, fun d _ => r.pathOf_strictlyBelow d,
    fun found hfound p hp => ?_, fun others => closure_congr⟩
  · have hentry : Path.IsEntryName name := c.isEntryName_of_mem_steps name hname
    exact ⟨hentry.ne_empty, hentry.ne_current, hentry.ne_parent, hentry.slash_free,
      Path.isAbsolute_of_slash_free hentry.slash_free⟩
  · obtain ⟨d, -, rfl⟩ := (mem_closure hfound p).mp hp
    exact r.pathOf_strictlyBelow d

def pairFilesAndMore : FileTree := pairFiles.put ["a-1.toml"] (.file (Bytes.ofText "[module]"))

theorem places_below_root_pair :
    (pair.pathOf secondOfPair).StrictlyBelow pair.root ∧
      ∃ found, pair.closure pairFiles firstOfPair = .ok found ∧
        (∀ p ∈ found.toList, p.StrictlyBelow pair.root) ∧
        pair.closure pairFilesAndMore firstOfPair = .ok found := by
  obtain ⟨-, -, hbelow, hfound, hanswer⟩ := places_below_root pair pairFiles firstOfPair
  obtain ⟨found, hclosure⟩ : ∃ found, pair.closure pairFiles firstOfPair = .ok found :=
    ⟨_, pair_collects.closure_eq⟩
  refine ⟨hbelow secondOfPair pair_reaches, found, hclosure, hfound found hclosure, ?_⟩
  rw [← hclosure]
  refine hanswer pairFilesAndMore fun d hd => ?_
  have hvisited : d = secondOfPair ∨ d = firstOfPair := by
    simpa [Collection.add, Collection.start] using (pair_collects.visited_iff d).mpr hd
  obtain rfl | rfl := hvisited
  · rfl
  · rfl

end Repository

end FormatterModules
