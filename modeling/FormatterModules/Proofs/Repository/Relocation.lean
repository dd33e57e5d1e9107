import FormatterModules.Proofs.Loader.Copies
import FormatterModules.Proofs.Repository.Provisioning

namespace FormatterModules

namespace Repository

variable {r r' : Repository} {files files' : FileTree}

/-- The files below both roots are the same, each under the same names. -/
def Copied (r : Repository) (files : FileTree) (r' : Repository) (files' : FileTree) : Prop :=
  ∀ names, names ≠ [] → (∀ n ∈ names, Path.IsEntryName n) →
    FileTree.SameAt files (r.root.joinNames names) files' (r'.root.joinNames names)

theorem copied_of_nodes {d d' : Place} (hr : files.place r.root = .ok d)
    (hr' : files'.place r'.root = .ok d')
    (hnodes : ∀ names, files.node? (d ++ names) = files'.node? (d' ++ names))
    (hshort : ∀ names, files.node? (d ++ names) ≠ none →
      (r.root.joinNames names).text.utf8ByteSize ≤ FileTree.pathLimit ∧
        (r'.root.joinNames names).text.utf8ByteSize ≤ FileTree.pathLimit) :
    Copied r files r' files' := by
  intro names _ hnames
  refine FileTree.sameAt_joinNames hr hr' hnodes hnames fun hnode => ?_
  exact iff_of_true (hshort names hnode).1 (hshort names hnode).2

theorem manifest_of_long (hlong : FileTree.pathLimit ≤ r.root.text.utf8ByteSize) (c : Coordinate) :
    r.manifest files c = .error (r.missing c) := by
  have hsize := r.root.utf8ByteSize_joinNames_le c.isEntryName_of_mem_steps
  have hsteps : 0 < c.steps.length := by simp [Coordinate.steps]
  have hunfound : files.isFile (r.pathOf c) = false := by
    unfold FileTree.isFile FileTree.find
    cases hplace : files.place (r.pathOf c) with
    | error e => rfl
    | ok x =>
      have hshort := (FileTree.place_eq_ok_iff.mp hplace).2.2.1
      rw [pathOf_eq] at hshort
      omega
  unfold Repository.manifest
  dsimp only
  rw [hunfound]
  rfl

theorem Copied.sameAt (h : Copied r files r' files') (c : Coordinate) :
    FileTree.SameAt files (r.pathOf c) files' (r'.pathOf c) := by
  rw [pathOf_eq, pathOf_eq]
  exact h c.steps (by simp [Coordinate.steps]) c.isEntryName_of_mem_steps

theorem Copied.manifest (h : Copied r files r' files') (c : Coordinate) :
    Parallel Eq (r.manifest files c) (r'.manifest files' c) := by
  have hsame := h.sameAt c
  have htext := FileTree.readText_of_read hsame.read
  unfold Repository.manifest
  dsimp only
  rw [← hsame.isFile]
  by_cases hfile : files.isFile (r.pathOf c) = true
  · simp only [hfile, if_true]
    obtain ⟨e, e', hp, hq⟩ | ⟨text, hp, hq⟩ := FileTree.cases_of_toOption_eq htext
    · rw [hp, hq]
      exact .error _ _
    · rw [hp, hq]
      exact parallel_of_ok (fun m hm => ⟨m, Manifest.parse_ok_of_parse_ok hm, rfl⟩)
        fun m hm => ⟨m, Manifest.parse_ok_of_parse_ok hm⟩
  · simp only [hfile]
    exact .error _ _

/-- The sets have the places of the same coordinates, in the same order. -/
def Moved (r r' : Repository) (s s' : OrderedSet Path) : Prop :=
  ∃ cs : List Coordinate, s.toList = cs.map r.pathOf ∧ s'.toList = cs.map r'.pathOf

theorem moved_empty (r r' : Repository) : Moved r r' .empty .empty := ⟨[], rfl, rfl⟩

theorem insert_pathOf (r r' : Repository) (c : Coordinate) (cs : List Coordinate) :
    ∃ ds : List Coordinate, Ascending.insert (r.pathOf c) (cs.map r.pathOf) = ds.map r.pathOf ∧
      Ascending.insert (r'.pathOf c) (cs.map r'.pathOf) = ds.map r'.pathOf := by
  induction cs with
  | nil => exact ⟨[c], rfl, rfl⟩
  | cons d cs ih =>
    obtain ⟨ds, hds, hds'⟩ := ih
    have hcompare : compare (r'.pathOf c) (r'.pathOf d) = compare (r.pathOf c) (r.pathOf d) := by
      simp only [pathOf_eq]
      exact Path.compare_joinNames _ _ c.isEntryName_of_mem_steps d.isEntryName_of_mem_steps
    simp only [List.map_cons, Ascending.insert, hcompare]
    cases compare (r.pathOf c) (r.pathOf d) with
    | lt => exact ⟨c :: d :: cs, rfl, rfl⟩
    | eq => exact ⟨d :: cs, rfl, rfl⟩
    | gt => exact ⟨d :: ds, by simp [hds], by simp [hds']⟩

theorem Moved.insert {s s' : OrderedSet Path} (h : Moved r r' s s') (c : Coordinate) :
    Moved r r' (s.insert (r.pathOf c)) (s'.insert (r'.pathOf c)) := by
  obtain ⟨cs, hs, hs'⟩ := h
  obtain ⟨ds, hds, hds'⟩ := insert_pathOf r r' c cs
  refine ⟨ds, ?_, ?_⟩
  · rw [← hds, ← hs]
    rfl
  · rw [← hds', ← hs']
    rfl

theorem Moved.union {s s' t t' : OrderedSet Path} (h : Moved r r' s s') (ht : Moved r r' t t') :
    Moved r r' (s.union t) (s'.union t') := by
  obtain ⟨cs, hcs, hcs'⟩ := ht
  unfold OrderedSet.union
  rw [hcs, hcs']
  clear hcs hcs'
  induction cs generalizing s s' with
  | nil => exact h
  | cons c cs ih => exact ih (h.insert c)

theorem lastName_pathOf (r : Repository) (c : Coordinate) : (r.pathOf c).lastName = c.fileName := by
  rw [pathOf, List.foldl_append]
  exact Path.lastName_joinText _ c.isEntryName_fileName

theorem Moved.sameFiles (hcopied : Copied r files r' files') {s s' : OrderedSet Path}
    (h : Moved r r' s s') :
    List.Forall₂ (fun p q => ArtifactSet.SameFile files p files' q) s.toList s'.toList := by
  obtain ⟨cs, hs, hs'⟩ := h
  rw [hs, hs', List.forall₂_map_left_iff, List.forall₂_map_right_iff]
  refine List.forall₂_same.mpr fun c _ => ⟨?_, FileTree.readText_of_read (hcopied.sameAt c).read⟩
  rw [lastName_pathOf, lastName_pathOf]

/-- The same was visited, and found in both places. -/
structure MovedCollection (r r' : Repository) (s s' : Collection) : Prop where
  visited : s'.visited = s.visited
  found : Moved r r' s.found s'.found

theorem MovedCollection.add {s s' : Collection} (h : MovedCollection r r' s s') (c : Coordinate) :
    MovedCollection r r' (s.add r c) (s'.add r' c) where
  visited := congrArg (c :: ·) h.visited
  found := h.found.insert c

theorem Collects.moved (hcopied : Copied r files r' files') {pending : List Coordinate}
    {s : Collection} {out : Except Failure Collection} (h : r.Collects files pending s out)
    {s' : Collection} (hs : MovedCollection r r' s s') :
    ∃ out', r'.Collects files' pending s' out' ∧ Parallel (MovedCollection r r') out out' := by
  -- The second collection visits what the first visits: the same was visited before, and the
  -- manifests on the way are the same.
  induction h generalizing s' with
  | done => exact ⟨.ok s', .done, .ok hs⟩
  | @skip c pending s out visited _ ih =>
    obtain ⟨out', hout, hparallel⟩ := ih hs
    exact ⟨out', .skip (hs.visited ▸ visited) hout, hparallel⟩
  | @stop c pending s e unvisited failed =>
    have hmanifest := hcopied.manifest c
    rw [failed] at hmanifest
    generalize hm : r'.manifest files' c = result at hmanifest
    cases hmanifest with
    | error _ e' => exact ⟨.error e', .stop (hs.visited ▸ unvisited) hm, .error _ _⟩
  | @enter c pending s inner m out unvisited read _ _ ihr ihn =>
    have hmanifest := hcopied.manifest c
    rw [read] at hmanifest
    generalize hm : r'.manifest files' c = result at hmanifest
    cases hmanifest with
    | ok heq =>
      subst heq
      obtain ⟨within, hrequires, hwithin⟩ := ihr (hs.add c)
      cases hwithin with
      | ok hinner =>
        obtain ⟨out', hnext, hparallel⟩ := ihn hinner
        exact ⟨out', .enter (hs.visited ▸ unvisited) hm hrequires hnext, hparallel⟩
  | @stopWithin c pending s m e unvisited read _ ih =>
    have hmanifest := hcopied.manifest c
    rw [read] at hmanifest
    generalize hm : r'.manifest files' c = result at hmanifest
    cases hmanifest with
    | ok heq =>
      subst heq
      obtain ⟨within, hrequires, hwithin⟩ := ih (hs.add c)
      cases hwithin with
      | error _ e' =>
        exact ⟨.error e', .stopWithin (hs.visited ▸ unvisited) hm hrequires, .error _ _⟩

theorem Copied.closure (h : Copied r files r' files') (c : Coordinate) :
    Parallel (Moved r r') (r.closure files c) (r'.closure files' c) := by
  obtain ⟨out, hout⟩ := exists_collects_single r files c
  obtain ⟨out', hout', hparallel⟩ := hout.moved h ⟨rfl, moved_empty r r'⟩
  rw [hout.closure_eq, hout'.closure_eq]
  cases hparallel with
  | error e e' => exact .error e e'
  | ok hmoved => exact .ok hmoved.found

theorem Copied.resolveAll (h : Copied r files r' files') (cs : List Coordinate)
    {found found' : OrderedSet Path} (hfound : Moved r r' found found') :
    Parallel (Moved r r') (Provisioner.resolveAll r files found cs)
      (Provisioner.resolveAll r' files' found' cs) := by
  induction cs generalizing found found' with
  | nil => exact .ok hfound
  | cons c cs ih =>
    have hclosure := h.closure c
    unfold Provisioner.resolveAll
    generalize r.closure files c = out at hclosure
    generalize r'.closure files' c = out' at hclosure
    cases hclosure with
    | error e e' => exact .error e e'
    | ok hmoved => exact ih (hfound.union hmoved)

theorem Copied.provision {env env' : Environment} (h : Copied r env.files r' env'.files)
    {flag? flag'? : Option StopFlag} (hflag : env.isStopped flag? = env'.isStopped flag'?)
    (coordinates : OrderedSet Coordinate) :
    Parallel (Moved r r') ((Provisioner.ofRepository r flag?).provision coordinates env).1
        ((Provisioner.ofRepository r' flag'?).provision coordinates env').1 ∧
      ((Provisioner.ofRepository r flag?).provision coordinates env).2 = env ∧
      ((Provisioner.ofRepository r' flag'?).provision coordinates env').2 = env' := by
  unfold Provisioner.ofRepository
  dsimp only
  rw [← hflag]
  by_cases hstopped : (env.isStopped flag? && !coordinates.isEmpty) = true
  · rw [if_pos hstopped, if_pos hstopped]
    exact ⟨.error _ _, rfl, rfl⟩
  · rw [if_neg hstopped, if_neg hstopped]
    exact ⟨h.resolveAll coordinates.toList (moved_empty r r'), rfl, rfl⟩

end Repository

end FormatterModules
