import FormatterModules.FileTree
import FormatterModules.Proofs.Ordered.Map
import FormatterModules.Proofs.Path.Joining

namespace FormatterModules

namespace Path

/-- Where one piece of a path leads to from a place. -/
def follow (place : Place) (piece : List Char) : Place :=
  if isSkipped piece then place
  else if piece == ['.', '.'] then place.dropLast
  else place ++ [String.ofList piece]

/-- Where a path leads to from the directory that relative paths start in. -/
def placeFrom (p : Path) (directory : Place) : Place :=
  p.pieces.foldl follow (if p.isAbsolute then [] else directory)

theorem IsEntryName.follow {name : String} (h : IsEntryName name) (place : Place) :
    Path.follow place name.toList = place ++ [name] := by
  obtain ⟨hempty, hcurrent, hparent⟩ := h.toList_ne
  simp [Path.follow, isSkipped, hempty, hcurrent, hparent]

theorem placeFrom_joinText (p : Path) {name : String} (h : IsEntryName name) (directory : Place) :
    (p.joinText name).placeFrom directory = p.placeFrom directory ++ [name] := by
  obtain ⟨habsolute, before, hpieces, hp⟩ := p.pieces_joinText h
  unfold placeFrom
  rw [habsolute, hpieces, List.foldl_append, List.foldl_cons, List.foldl_nil, h.follow]
  obtain hp | hp := hp
  · rw [hp]
  · rw [hp, List.foldl_append]
    rfl

end Path

namespace FileTree

/-- The file at a place. -/
def file? (t : FileTree) (place : Place) : Option FileNode :=
  (t.node? place).filter fun node => !node.isDirectory

@[simp] theorem node?_root (t : FileTree) : t.node? [] = some .directory := rfl

theorem node?_of_ne {t : FileTree} {place : Place} (h : place ≠ []) :
    t.node? place = t.nodes.get? place := by
  rw [node?, if_neg (by simpa using h)]

theorem node?_put (t : FileTree) {place : Place} (h : place ≠ []) (node : FileNode) (x : Place) :
    (t.put place node).node? x = if x = place then some node else t.node? x := by
  by_cases hx : x = []
  · subst hx
    rw [if_neg (Ne.symm h), node?_root, node?_root]
  · rw [node?_of_ne hx, node?_of_ne hx]
    exact OrderedMap.get?_insert _ _ _ _

theorem node?_erase (t : FileTree) {place : Place} (h : place ≠ []) (x : Place) :
    (t.erase place).node? x = if x = place then none else t.node? x := by
  by_cases hx : x = []
  · subst hx
    rw [if_neg (Ne.symm h), node?_root, node?_root]
  · rw [node?_of_ne hx, node?_of_ne hx]
    exact OrderedMap.get?_erase _ _ _

theorem file?_eq_some_iff {t : FileTree} {place : Place} {content : ByteArray} :
    t.file? place = some (.file content) ↔ t.node? place = some (.file content) := by
  unfold file?
  cases t.node? place with
  | none => simp
  | some node => cases node <;> simp [FileNode.isDirectory]

theorem read_eq_ok_iff {t : FileTree} {p : Path} {content : ByteArray} :
    t.read p = .ok content ↔ ∃ place, t.place p = .ok place ∧ t.file? place = some (.file content) := by
  simp only [file?_eq_some_iff]
  unfold read find
  cases t.place p with
  | error e => simp
  | ok place =>
    dsimp only
    cases hnode : t.node? place with
    | none => simp [hnode]
    | some node => cases node <;> simp [hnode]

theorem isFile_of_read {t : FileTree} {p : Path} {content : ByteArray} (h : t.read p = .ok content) :
    t.isFile p = true := by
  unfold read at h
  unfold isFile
  cases hfind : t.find p with
  | error e => rw [hfind] at h; cases h
  | ok node =>
    rw [hfind] at h
    cases node with
    | directory | locked _ => cases h
    | file _ => rfl

theorem hasDirectory_iff {t : FileTree} {place : Place} :
    t.hasDirectory place = true ↔ t.node? place = some .directory := by
  unfold hasDirectory
  cases t.node? place with
  | none => simp
  | some node => cases node <;> simp [FileNode.isDirectory]

section Places

variable {t : FileTree}

theorem step_eq_ok {place next : Place} {piece : List Char} (h : t.step place piece = .ok next) :
    t.hasDirectory place = true ∧ next = Path.follow place piece := by
  unfold step at h
  unfold Path.follow
  by_cases hd : t.hasDirectory place = true
  · rw [if_neg (by simp [hd])] at h
    refine ⟨hd, ?_⟩
    by_cases hs : Path.isSkipped piece = true
    · rw [if_pos hs] at h ⊢
      exact (Except.ok.inj h).symm
    · rw [if_neg hs] at h ⊢
      by_cases hp : (piece == ['.', '.']) = true
      · rw [if_pos hp] at h ⊢
        exact (Except.ok.inj h).symm
      · rw [if_neg hp] at h ⊢
        dsimp only at h
        split at h
        · cases h
        · exact (Except.ok.inj h).symm
  · rw [if_pos (by simpa using hd)] at h
    cases h

theorem foldlM_step_eq_ok {pieces : List (List Char)} {place last : Place}
    (h : pieces.foldlM t.step place = .ok last) : last = pieces.foldl Path.follow place := by
  induction pieces generalizing place with
  | nil => exact (Except.ok.inj h).symm
  | cons piece pieces ih =>
    rw [List.foldlM_cons] at h
    cases hs : t.step place piece with
    | error e => rw [hs] at h; cases h
    | ok next =>
      rw [hs] at h
      rw [List.foldl_cons, ← (step_eq_ok hs).2]
      exact ih h

theorem place_eq_ok {p : Path} {place : Place} (h : t.place p = .ok place) :
    place = p.placeFrom t.workingDirectory := by
  unfold FileTree.place at h
  split at h
  · cases h
  · split at h
    · cases h
    · split at h
      · cases h
      · exact foldlM_step_eq_ok h

theorem hasDirectory_of_place {p : Path} {name : String} (hname : Path.IsEntryName name)
    {place : Place} (h : t.place (p.joinText name) = .ok place) :
    t.hasDirectory (p.placeFrom t.workingDirectory) = true := by
  obtain ⟨habsolute, before, hpieces, hp⟩ := p.pieces_joinText hname
  have hbefore : p.placeFrom t.workingDirectory =
      before.foldl Path.follow (if p.isAbsolute then [] else t.workingDirectory) := by
    unfold Path.placeFrom
    obtain hp | hp := hp
    · rw [hp]
    · rw [hp, List.foldl_append]
      rfl
  have hfold : (p.joinText name).pieces.foldlM t.step
      (if p.isAbsolute then [] else t.workingDirectory) = .ok place := by
    unfold FileTree.place at h
    rw [habsolute] at h
    split at h
    · cases h
    · split at h
      · cases h
      · split at h
        · cases h
        · exact h
  rw [hpieces, List.foldlM_append] at hfold
  cases hm : before.foldlM t.step (if p.isAbsolute then [] else t.workingDirectory) with
  | error e => rw [hm] at hfold; cases hfold
  | ok mid =>
    rw [hm] at hfold
    have hlast : [name.toList].foldlM t.step mid = .ok place := hfold
    rw [List.foldlM_cons] at hlast
    cases hs : t.step mid name.toList with
    | error e => rw [hs] at hlast; cases hlast
    | ok next =>
      rw [hbefore, ← foldlM_step_eq_ok hm]
      exact (step_eq_ok hs).1

theorem place_congr (t other : FileTree) (hw : other.workingDirectory = t.workingDirectory)
    (h : ∀ x, t.hasDirectory x = true → other.hasDirectory x = true) {p : Path} {place : Place}
    (hp : t.place p = .ok place) : other.place p = .ok place := by
  have hstep : ∀ x y piece, t.step x piece = .ok y → other.step x piece = .ok y := by
    intro x y piece hs
    have hd := (step_eq_ok hs).1
    unfold step at hs ⊢
    rw [h x hd]
    rw [hd] at hs
    exact hs
  have hfold : ∀ (pieces : List (List Char)) (x y : Place),
      pieces.foldlM t.step x = .ok y → pieces.foldlM other.step x = .ok y := by
    intro pieces
    induction pieces with
    | nil => exact fun _ _ hx => hx
    | cons piece pieces ih =>
      intro x y hx
      rw [List.foldlM_cons] at hx ⊢
      cases hs : t.step x piece with
      | error e => rw [hs] at hx; cases hx
      | ok next =>
        rw [hs] at hx
        rw [hstep x next piece hs]
        exact ih next y hx
  unfold FileTree.place at hp ⊢
  rw [hw]
  split at hp
  · cases hp
  · next hnull =>
    split at hp
    · cases hp
    · next hempty =>
      split at hp
      · cases hp
      · next hshort =>
        rw [if_neg hnull, if_neg hempty, if_neg hshort]
        exact hfold _ _ _ hp

end Places

/-- The second tree has all that the first has, and no more files. -/
structure Grows (t other : FileTree) : Prop where
  workingDirectory : other.workingDirectory = t.workingDirectory
  keeps : ∀ x node, t.node? x = some node → other.node? x = some node
  files : ∀ x, other.file? x = t.file? x

theorem Grows.refl (t : FileTree) : Grows t t := ⟨rfl, fun _ _ h => h, fun _ => rfl⟩

theorem Grows.trans {t u v : FileTree} (h : Grows t u) (h' : Grows u v) : Grows t v where
  workingDirectory := h'.workingDirectory.trans h.workingDirectory
  keeps x node hx := h'.keeps x node (h.keeps x node hx)
  files x := (h'.files x).trans (h.files x)

theorem Grows.hasDirectory {t other : FileTree} (h : Grows t other) {x : Place}
    (hx : t.hasDirectory x = true) : other.hasDirectory x = true :=
  hasDirectory_iff.mpr (h.keeps x .directory (hasDirectory_iff.mp hx))

theorem grows_putDirectory (t : FileTree) (place : Place) : Grows t (t.putDirectory place) := by
  unfold putDirectory
  cases hp : t.node? place with
  | some node => exact .refl t
  | none =>
    have hne : place ≠ [] := by
      rintro rfl
      cases hp
    refine ⟨rfl, ?_, ?_⟩
    · intro x node hx
      rw [node?_put t hne, if_neg, hx]
      rintro rfl
      cases hp.symm.trans hx
    · intro x
      unfold file?
      rw [node?_put t hne]
      by_cases hx : x = place
      · rw [if_pos hx, hx, hp]
        rfl
      · rw [if_neg hx]

theorem grows_makeAlong (t : FileTree) (place : Place) (pieces : List (List Char)) :
    Grows t (t.makeAlong place pieces).2 := by
  induction pieces generalizing t place with
  | nil => exact .refl t
  | cons piece pieces ih =>
    unfold makeAlong
    cases t.step place piece with
    | error e => exact .refl t
    | ok next => exact (t.grows_putDirectory next).trans (ih _ next)

theorem grows_ensureDirectories (t : FileTree) (p : Path) : Grows t (t.ensureDirectories p).2 := by
  unfold ensureDirectories
  split
  · exact .refl t
  · split
    · exact .refl t
    · have hgrows := t.grows_makeAlong (if p.isAbsolute then [] else t.workingDirectory) p.pieces
      revert hgrows
      cases t.makeAlong (if p.isAbsolute then [] else t.workingDirectory) p.pieces with
      | mk result made => cases result <;> exact id

theorem writeTemporary_eq_ok {t made : FileTree} {directory : Path} {content : ByteArray}
    {n tries : Nat} {place : Place}
    (h : t.writeTemporary directory content n tries = .ok (place, made)) :
    t.node? place = none ∧ made = t.put place (.file content) := by
  induction tries generalizing n with
  | zero => cases h
  | succ tries ih =>
    unfold writeTemporary at h
    cases hp : t.place (directory.joinText (temporaryName n)) with
    | error e => rw [hp] at h; cases h
    | ok x =>
      rw [hp] at h
      dsimp only at h
      split at h
      · exact ih h
      · next hfree =>
        cases h
        exact ⟨by simpa using hfree, rfl⟩

theorem ne_root_of_free {t : FileTree} {place : Place} (h : t.node? place = none) : place ≠ [] := by
  rintro rfl
  cases h

theorem ne_root_of_not_directory {t : FileTree} {place : Place} (h : t.hasDirectory place ≠ true) :
    place ≠ [] := by
  rintro rfl
  exact h rfl

theorem grows_erase_put {t : FileTree} {place : Place} (h : t.node? place = none) (node : FileNode) :
    Grows t ((t.put place node).erase place) := by
  have hnode : ∀ x, ((t.put place node).erase place).node? x = t.node? x := by
    intro x
    have hne := ne_root_of_free h
    rw [node?_erase _ hne, node?_put _ hne]
    by_cases hx : x = place
    · rw [if_pos hx, hx, h]
    · rw [if_neg hx, if_neg hx]
  refine ⟨rfl, fun x node' hx => ?_, fun x => ?_⟩
  · rw [hnode, hx]
  · rw [file?, hnode, file?]

/-- A new file that takes the place of another changes no file but this. -/
structure Replaces (t other : FileTree) (p : Path) (place : Place) (content : ByteArray) : Prop where
  workingDirectory : other.workingDirectory = t.workingDirectory
  leads : other.place p = .ok place
  holds : other.node? place = some (.file content)
  others : ∀ x, x ≠ place → other.file? x = t.file? x
  directories : ∀ x, t.hasDirectory x = true → other.hasDirectory x = true

theorem replaces_of_move {t moved : FileTree} {source : Place} {content : ByteArray} {p : Path}
    (hfree : t.node? source = none) (h : (t.put source (.file content)).move source p = .ok moved) :
    Replaces t moved p (p.placeFrom t.workingDirectory) content := by
  have hsource := ne_root_of_free hfree
  have hput : (t.put source (.file content)).node? source = some (.file content) := by
    rw [node?_put t hsource, if_pos rfl]
  unfold move at h
  cases hp : (t.put source (.file content)).place p with
  | error e => rw [hp] at h; cases h
  | ok target =>
    rw [hp] at h
    dsimp only at h
    split at h
    · cases h
    · next hd =>
      rw [hput] at h
      cases h
      have htarget := ne_root_of_not_directory hd
      have hplace : target = p.placeFrom (t.put source (.file content)).workingDirectory :=
        place_eq_ok hp
      obtain rfl : target = p.placeFrom t.workingDirectory := hplace
      have hnode : ∀ x, x ≠ p.placeFrom t.workingDirectory →
          (((t.put source (.file content)).erase source).put (p.placeFrom t.workingDirectory)
            (.file content)).node? x = t.node? x := by
        intro x hx
        rw [node?_put _ htarget, if_neg hx, node?_erase _ hsource, node?_put t hsource]
        by_cases hxs : x = source
        · rw [if_pos hxs, hxs, hfree]
        · rw [if_neg hxs, if_neg hxs]
      have hdirectories : ∀ x, (t.put source (.file content)).hasDirectory x = true →
          (((t.put source (.file content)).erase source).put (p.placeFrom t.workingDirectory)
            (.file content)).hasDirectory x = true := by
        intro x hx
        have hne : x ≠ p.placeFrom t.workingDirectory := by
          rintro rfl
          exact hd hx
        rw [hasDirectory_iff] at hx ⊢
        rw [node?_put t hsource] at hx
        rw [hnode x hne]
        split at hx
        · cases hx
        · exact hx
      refine ⟨rfl, ?_, by rw [node?_put _ htarget, if_pos rfl], ?_, ?_⟩
      · refine place_congr (t.put source (.file content)) _ ?_ hdirectories hp
        rfl
      · intro x hx
        rw [file?, hnode x hx, file?]
      · intro x hx
        refine hdirectories x (hasDirectory_iff.mpr ?_)
        rw [node?_put t hsource, if_neg, hasDirectory_iff.mp hx]
        rintro rfl
        cases (hasDirectory_iff.mp hx).symm.trans hfree

theorem Grows.replaces {t made other : FileTree} (h : Grows t made) {p : Path} {place : Place}
    {content : ByteArray} (h' : Replaces made other p place content) :
    Replaces t other p place content where
  workingDirectory := h'.workingDirectory.trans h.workingDirectory
  leads := h'.leads
  holds := h'.holds
  others x hx := (h'.others x hx).trans (h.files x)
  directories x hx := h'.directories x (h.hasDirectory hx)

section Reading

variable {t other : FileTree} {p q : Path} {place : Place} {content bytes : ByteArray}

theorem Replaces.read (h : Replaces t other p place content) : other.read p = .ok content :=
  read_eq_ok_iff.mpr ⟨place, h.leads, file?_eq_some_iff.mpr h.holds⟩

/-- What could be read before reads the same, unless it is what was replaced. -/
theorem Replaces.read_of_read (h : Replaces t other p place content) (hq : t.read q = .ok bytes) :
    other.read q = .ok (if t.place q = .ok place then content else bytes) := by
  obtain ⟨x, hx, hfile⟩ := read_eq_ok_iff.mp hq
  refine read_eq_ok_iff.mpr ⟨x, place_congr t other h.workingDirectory h.directories hx, ?_⟩
  rw [hx]
  by_cases heq : x = place
  · rw [if_pos (congrArg Except.ok heq), heq]
    exact file?_eq_some_iff.mpr h.holds
  · rw [if_neg fun hok => heq (Except.ok.inj hok), h.others x heq, hfile]

end Reading

end FileTree

end FormatterModules
