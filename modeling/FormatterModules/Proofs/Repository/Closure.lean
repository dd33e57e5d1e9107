import Mathlib.Logic.Relation
import FormatterModules.Proofs.Manifest.Reading
import FormatterModules.Proofs.Ordered.Set
import FormatterModules.Proofs.Repository.Places

namespace FormatterModules

namespace FileTree

theorem mem_contents_of_find {files : FileTree} {p : Path} {content : ByteArray}
    (h : files.find p = .ok (.file content)) : content ∈ files.contents := by
  unfold find at h
  split at h
  · cases h
  · next place hplace =>
    split at h
    · next node hnode =>
      cases h
      unfold node? at hnode
      split at hnode
      · cases hnode
      · obtain ⟨entry, hentry, hfile⟩ := Option.map_eq_some_iff.mp hnode
        refine List.mem_filterMap.mpr ⟨entry, List.mem_of_find?_eq_some hentry, ?_⟩
        rw [hfile]
    · cases h

theorem readText_eq_ok {files : FileTree} {p : Path} {text : String} :
    files.readText p = .ok text ↔
      ∃ content, files.find p = .ok (.file content) ∧ Bytes.decodeUtf8? content = some text := by
  unfold readText read
  cases files.find p with
  | error e => simp
  | ok node =>
    cases node with
    | directory | locked _ => simp
    | file content => cases hdecoded : Bytes.decodeUtf8? content <;> simp [hdecoded]

theorem isFile_of_find {files : FileTree} {p : Path} {content : ByteArray}
    (h : files.find p = .ok (.file content)) : files.isFile p = true := by
  rw [isFile, h]
  rfl

def HoldsManifest (files : FileTree) (p : Path) (m : Manifest) : Prop :=
  ∃ text, files.readText p = .ok text ∧ Manifest.parse p.text text = .ok m

end FileTree

namespace Repository

variable (r : Repository) (files : FileTree)

/-- At the place of the coordinate lies a regular file whose text is this manifest. -/
structure HasModule (c : Coordinate) (m : Manifest) : Prop where
  isFile : files.isFile (r.pathOf c) = true
  holds : files.HoldsManifest (r.pathOf c) m

/-- The module of the first coordinate requires the second. -/
def Requires (c d : Coordinate) : Prop := ∃ m, r.HasModule files c m ∧ d ∈ m.header.requires

/-- A coordinate is reached from itself and from all that reach something that requires it. -/
abbrev Reaches : Coordinate → Coordinate → Prop := Relation.ReflTransGen (r.Requires files)

theorem hasModule_iff {c : Coordinate} {m : Manifest} :
    r.HasModule files c m ↔ files.HoldsManifest (r.pathOf c) m := by
  refine ⟨HasModule.holds, fun h => ⟨?_, h⟩⟩
  obtain ⟨text, hread, -⟩ := h
  obtain ⟨content, hfind, -⟩ := FileTree.readText_eq_ok.mp hread
  exact FileTree.isFile_of_find hfind

theorem manifest_eq_ok {c : Coordinate} {m : Manifest} :
    r.manifest files c = .ok m ↔ r.HasModule files c m := by
  unfold manifest
  constructor
  · intro h
    by_cases hfile : files.isFile (r.pathOf c) = true
    · simp only [hfile, if_true] at h
      cases hread : files.readText (r.pathOf c) with
      | error e => rw [hread] at h; cases h
      | ok text =>
        rw [hread] at h
        exact ⟨hfile, text, hread, h⟩
    · simp [hfile] at h
  · rintro ⟨hfile, text, hread, hparse⟩
    simp only [hfile, if_true, hread, hparse]

theorem requires_subset {r : Repository} {files : FileTree} {all : List Coordinate}
    (hall : mentioned files ⊆ all) {c : Coordinate} {m : Manifest}
    (h : r.manifest files c = .ok m) : m.header.requires ⊆ all := by
  intro d hd
  obtain ⟨text, hread, hparse⟩ := ((r.manifest_eq_ok files).mp h).holds
  obtain ⟨content, hfind, hdecoded⟩ := FileTree.readText_eq_ok.mp hread
  refine hall (List.mem_flatMap.mpr ⟨content, FileTree.mem_contents_of_find hfind, ?_⟩)
  rw [requiredBy, hdecoded, Option.bind_some, Manifest.decode?_of_parse hparse]
  exact hd

/-- What was visited, and the places of the modules that were found. -/
structure Collection where
  visited : List Coordinate
  found : OrderedSet Path

namespace Collection

def start : Collection := ⟨[], .empty⟩

def add (s : Collection) (c : Coordinate) : Collection :=
  ⟨c :: s.visited, s.found.insert (r.pathOf c)⟩

end Collection

/-- The coordinates are collected in order, each with all it requires before the next. A failure
ends the collection. -/
inductive Collects : List Coordinate → Collection → Except Failure Collection → Prop
  | done {s : Collection} : Collects [] s (.ok s)
  | skip {c : Coordinate} {rest : List Coordinate} {s : Collection}
      {out : Except Failure Collection} (visited : c ∈ s.visited) (next : Collects rest s out) :
      Collects (c :: rest) s out
  | stop {c : Coordinate} {rest : List Coordinate} {s : Collection} {e : Failure}
      (unvisited : c ∉ s.visited) (failed : r.manifest files c = .error e) :
      Collects (c :: rest) s (.error e)
  | enter {c : Coordinate} {rest : List Coordinate} {s inner : Collection} {m : Manifest}
      {out : Except Failure Collection} (unvisited : c ∉ s.visited)
      (read : r.manifest files c = .ok m)
      (requirements : Collects m.header.requires (s.add r c) (.ok inner))
      (next : Collects rest inner out) : Collects (c :: rest) s out
  | stopWithin {c : Coordinate} {rest : List Coordinate} {s : Collection} {m : Manifest}
      {e : Failure} (unvisited : c ∉ s.visited) (read : r.manifest files c = .ok m)
      (requirements : Collects m.header.requires (s.add r c) (.error e)) :
      Collects (c :: rest) s (.error e)

variable {r files}

namespace Collects

@[elab_as_elim] theorem ok_induction
    {motive : ∀ (pending : List Coordinate) (s t : Collection),
      r.Collects files pending s (.ok t) → Prop}
    (done : ∀ s, motive [] s s .done)
    (skip : ∀ {c rest s t} (visited : c ∈ s.visited) (next : r.Collects files rest s (.ok t)),
      motive rest s t next → motive (c :: rest) s t (.skip visited next))
    (enter : ∀ {c rest s inner m t} (unvisited : c ∉ s.visited)
      (read : r.manifest files c = .ok m)
      (requirements : r.Collects files m.header.requires (s.add r c) (.ok inner))
      (next : r.Collects files rest inner (.ok t)),
      motive m.header.requires (s.add r c) inner requirements → motive rest inner t next →
        motive (c :: rest) s t (.enter unvisited read requirements next))
    {pending : List Coordinate} {s t : Collection} (h : r.Collects files pending s (.ok t)) :
    motive pending s t h := by
  suffices hall : ∀ pending s out (ho : r.Collects files pending s out) t (heq : out = .ok t),
      motive pending s t (heq ▸ ho) from hall pending s _ h t rfl
  intro pending s out ho
  induction ho with
  | done =>
    rintro t ⟨⟩
    exact done _
  | skip visited next ih =>
    rintro t rfl
    exact skip visited next (ih t rfl)
  | stop => exact fun t heq => nomatch heq
  | enter unvisited read requirements next ihr ihn =>
    rintro t rfl
    exact enter unvisited read requirements next (ihr _ rfl) (ihn t rfl)
  | stopWithin => exact fun t heq => nomatch heq

theorem visited_subset {pending : List Coordinate} {s t : Collection}
    (h : r.Collects files pending s (.ok t)) : s.visited ⊆ t.visited := by
  induction h using ok_induction with
  | done s => exact List.Subset.refl s.visited
  | skip visited next ih => exact ih
  | enter unvisited read requirements next ihr ihn =>
    exact List.Subset.trans (List.subset_cons_self _ _) (List.Subset.trans ihr ihn)

theorem pending_subset {pending : List Coordinate} {s t : Collection}
    (h : r.Collects files pending s (.ok t)) : pending ⊆ t.visited := by
  induction h using ok_induction with
  | done s => exact List.nil_subset s.visited
  | skip visited next ih => exact List.cons_subset.mpr ⟨next.visited_subset visited, ih⟩
  | enter unvisited read requirements next ihr ihn =>
    have hc := requirements.visited_subset List.mem_cons_self
    exact List.cons_subset.mpr ⟨next.visited_subset hc, ihn⟩

theorem closed {pending : List Coordinate} {s t : Collection}
    (h : r.Collects files pending s (.ok t)) :
    ∀ d ∈ t.visited, d ∉ s.visited →
      ∃ m, r.HasModule files d m ∧ m.header.requires ⊆ t.visited := by
  induction h using ok_induction with
  | done s => exact fun d hd hn => absurd hd hn
  | skip visited next ih => exact ih
  | @enter c rest s inner m t unvisited read requirements next ihr ihn =>
    intro d hd hn
    -- What the requirements brought is in order when they are done, but for `c`, which was visited
    -- before them and requires them. The rest comes with the visits after that.
    by_cases hinner : d ∈ inner.visited
    · by_cases hdc : d = c
      · subst hdc
        exact ⟨m, (r.manifest_eq_ok files).mp read,
          List.Subset.trans requirements.pending_subset next.visited_subset⟩
      · obtain ⟨m', hm', hsub⟩ := ihr d hinner (by simp [Collection.add, hdc, hn])
        exact ⟨m', hm', List.Subset.trans hsub next.visited_subset⟩
    · exact ihn d hd hinner

theorem reached {pending : List Coordinate} {s t : Collection}
    (h : r.Collects files pending s (.ok t)) :
    ∀ d ∈ t.visited, d ∈ s.visited ∨ ∃ c ∈ pending, r.Reaches files c d := by
  induction h using ok_induction with
  | done s => exact fun d hd => .inl hd
  | skip visited next ih =>
    intro d hd
    obtain hs | ⟨c, hc, hreach⟩ := ih d hd
    · exact .inl hs
    · exact .inr ⟨c, List.mem_cons_of_mem _ hc, hreach⟩
  | @enter c rest s inner m t unvisited read requirements next ihr ihn =>
    intro d hd
    obtain hinner | ⟨c', hc', hreach⟩ := ihn d hd
    · obtain hs | ⟨q, hq, hreach⟩ := ihr d hinner
      · obtain rfl | hs := List.mem_cons.mp hs
        · exact .inr ⟨d, List.mem_cons_self, .refl⟩
        · exact .inl hs
      · have hmodule := (r.manifest_eq_ok files).mp read
        exact .inr ⟨c, List.mem_cons_self, .head ⟨m, hmodule, hq⟩ hreach⟩
    · exact .inr ⟨c', List.mem_cons_of_mem _ hc', hreach⟩

theorem failed {pending : List Coordinate} {s : Collection} {e : Failure}
    (h : r.Collects files pending s (.error e)) :
    ∃ c ∈ pending, ∃ d, r.Reaches files c d ∧ r.manifest files d = .error e := by
  generalize hout : Except.error e = out at h
  induction h with
  | done => cases hout
  | skip visited next ih =>
    obtain ⟨c, hc, hd⟩ := ih hout
    exact ⟨c, List.mem_cons_of_mem _ hc, hd⟩
  | @stop c rest s e' unvisited failed =>
    cases hout
    exact ⟨c, List.mem_cons_self, c, .refl, failed⟩
  | enter unvisited read requirements next ihr ihn =>
    obtain ⟨c, hc, hd⟩ := ihn hout
    exact ⟨c, List.mem_cons_of_mem _ hc, hd⟩
  | @stopWithin c rest s m e' unvisited read requirements ih =>
    obtain ⟨q, hq, d, hreach, hfailed⟩ := ih hout
    have hmodule := (r.manifest_eq_ok files).mp read
    exact ⟨c, List.mem_cons_self, d, .head ⟨m, hmodule, hq⟩ hreach, hfailed⟩

end Collects

/-- The places that were found are those of the visited coordinates. -/
def Collection.Faithful (r : Repository) (s : Collection) : Prop :=
  ∀ p, p ∈ s.found.toList ↔ ∃ d ∈ s.visited, p = r.pathOf d

theorem Collection.faithful_start (r : Repository) : start.Faithful r := by
  intro p
  simp [start, OrderedSet.empty]

theorem Collection.Faithful.add {s : Collection} (h : s.Faithful r) (c : Coordinate) :
    (s.add r c).Faithful r := by
  intro p
  have hequal : ∀ q ∈ s.found.toList, compare (r.pathOf c) q = .eq → r.pathOf c = q := by
    intro q hq heq
    obtain ⟨d, -, rfl⟩ := (h q).mp hq
    exact pathOf_eq_of_compare heq
  change p ∈ (s.found.insert (r.pathOf c)).toList ↔ _
  rw [OrderedSet.mem_insert_iff hequal, h p]
  exact List.exists_mem_cons_iff (fun d => p = r.pathOf d) c s.visited |>.symm

theorem Collects.faithful {pending : List Coordinate} {s t : Collection}
    (h : r.Collects files pending s (.ok t)) (hs : s.Faithful r) : t.Faithful r := by
  induction h using ok_induction with
  | done s => exact hs
  | skip visited next ih => exact ih hs
  | enter unvisited read requirements next ihr ihn => exact ihn (ihr (hs.add _))

def unvisited (all visited : List Coordinate) : List Coordinate := all.filter (· ∉ visited)

theorem mem_unvisited {all visited : List Coordinate} {c : Coordinate} :
    c ∈ unvisited all visited ↔ c ∈ all ∧ c ∉ visited := by
  simp [unvisited]

theorem others_unvisited (c : Coordinate) (all visited : List Coordinate) :
    others c (unvisited all visited) = unvisited all (c :: visited) := by
  rw [others, unvisited, unvisited, List.filter_filter]
  refine List.filter_congr fun d _ => ?_
  simp

theorem length_unvisited_lt {all visited others : List Coordinate} {c : Coordinate}
    (hc : c ∈ all) (hv : c ∉ visited) (h : c :: visited ⊆ others) :
    (unvisited all others).length < (unvisited all visited).length := by
  have hle : (unvisited all others).length ≤ (unvisited all (c :: visited)).length := by
    refine List.Sublist.length_le (List.monotone_filter_right all ?_)
    intro d hd
    simp only [decide_eq_true_eq] at hd ⊢
    exact fun hmem => hd (h hmem)
  rw [← others_unvisited] at hle
  exact Nat.lt_of_le_of_lt hle (length_others_lt (mem_unvisited.mpr ⟨hc, hv⟩))

theorem exists_collects {all : List Coordinate} (hall : mentioned files ⊆ all)
    (pending : List Coordinate) (s : Collection) (hp : pending ⊆ all) :
    ∃ out, r.Collects files pending s out := by
  match pending with
  | [] => exact ⟨_, .done⟩
  | c :: rest =>
    obtain ⟨hc, hrest⟩ := List.cons_subset.mp hp
    by_cases hv : c ∈ s.visited
    · obtain ⟨out, hnext⟩ := exists_collects hall rest s hrest
      exact ⟨out, .skip hv hnext⟩
    · cases hm : r.manifest files c with
      | error e => exact ⟨_, .stop hv hm⟩
      | ok m =>
        obtain ⟨out, hrequires⟩ := exists_collects hall m.header.requires (s.add r c)
          (requires_subset hall hm)
        cases out with
        | error e => exact ⟨_, .stopWithin hv hm hrequires⟩
        | ok inner =>
          obtain ⟨out, hnext⟩ := exists_collects hall rest inner hrest
          exact ⟨out, .enter hv hm hrequires hnext⟩
termination_by ((unvisited all s.visited).length, pending.length)
decreasing_by
  · exact Prod.Lex.right _ (Nat.lt_succ_self _)
  · exact Prod.Lex.left _ _ (length_unvisited_lt hc hv (List.Subset.refl _))
  · exact Prod.Lex.left _ _ (length_unvisited_lt hc hv hrequires.visited_subset)

theorem exists_collects_single (r : Repository) (files : FileTree) (c : Coordinate) :
    ∃ out, r.Collects files [c] .start out :=
  exists_collects (List.subset_cons_self c (mentioned files)) [c] .start (by simp)

section Walk

variable {remaining pending : List Coordinate} {found : OrderedSet Path} {c : Coordinate}

theorem walk_skip (h : c ∉ remaining) :
    r.walk files remaining (c :: pending) found = r.walk files remaining pending found := by
  rw [walk, dif_neg h]

theorem walk_stop (h : c ∈ remaining) {e : Failure} (hm : r.manifest files c = .error e) :
    r.walk files remaining (c :: pending) found = .error e := by
  rw [walk, dif_pos h, hm]

theorem walk_enter (h : c ∈ remaining) {m : Manifest} (hm : r.manifest files c = .ok m) :
    r.walk files remaining (c :: pending) found =
      r.walk files (others c remaining) (m.header.requires ++ pending)
        (found.insert (r.pathOf c)) := by
  rw [walk, dif_pos h, hm]

end Walk

theorem Collects.walk_eq {all : List Coordinate} (hall : mentioned files ⊆ all)
    {pending : List Coordinate} {s : Collection} {out : Except Failure Collection}
    (h : r.Collects files pending s out) (hp : pending ⊆ all) (rest : List Coordinate) :
    r.walk files (unvisited all s.visited) (pending ++ rest) s.found =
      out.bind fun t => r.walk files (unvisited all t.visited) rest t.found := by
  induction h generalizing rest with
  | done => rfl
  | @skip c pending s out hv next ih =>
    have hc : c ∉ unvisited all s.visited := fun hm => (mem_unvisited.mp hm).2 hv
    rw [List.cons_append, walk_skip hc]
    exact ih (List.cons_subset.mp hp).2 rest
  | @stop c pending s e hv failed =>
    have hc : c ∈ unvisited all s.visited := mem_unvisited.mpr ⟨hp List.mem_cons_self, hv⟩
    rw [List.cons_append, walk_stop hc failed]
    rfl
  | @enter c pending s inner m out hv read requirements next ihr ihn =>
    have hc : c ∈ unvisited all s.visited := mem_unvisited.mpr ⟨hp List.mem_cons_self, hv⟩
    rw [List.cons_append, walk_enter hc read, others_unvisited]
    -- The walk has put the requirements in front, so for their collection all else is the rest.
    calc r.walk files _ (m.header.requires ++ (pending ++ rest)) (s.add r c).found
      _ = r.walk files _ (pending ++ rest) inner.found :=
        ihr (requires_subset hall read) (pending ++ rest)
      _ = _ := ihn (List.cons_subset.mp hp).2 rest
  | @stopWithin c pending s m e hv read requirements ih =>
    have hc : c ∈ unvisited all s.visited := mem_unvisited.mpr ⟨hp List.mem_cons_self, hv⟩
    rw [List.cons_append, walk_enter hc read, others_unvisited]
    exact ih (requires_subset hall read) (pending ++ rest)

theorem Collects.closure_eq {c : Coordinate} {out : Except Failure Collection}
    (h : r.Collects files [c] .start out) : r.closure files c = out.map Collection.found := by
  have hall : mentioned files ⊆ c :: mentioned files := List.subset_cons_self c _
  have hwalk := h.walk_eq hall (by simp) []
  have hremaining : unvisited (c :: mentioned files) [] = c :: mentioned files := by
    simp [unvisited]
  rw [Collection.start, hremaining] at hwalk
  rw [closure]
  refine hwalk.trans ?_
  cases out with
  | error e => rfl
  | ok t => rw [Except.bind, walk, Except.map]

theorem Collects.visited_iff {c : Coordinate} {t : Collection}
    (h : r.Collects files [c] .start (.ok t)) (d : Coordinate) :
    d ∈ t.visited ↔ r.Reaches files c d := by
  constructor
  · intro hd
    obtain hstart | ⟨c', hc', hreach⟩ := h.reached d hd
    · cases hstart
    · rwa [List.mem_singleton.mp hc'] at hreach
  · intro hreach
    induction hreach with
    | refl => exact h.pending_subset List.mem_cons_self
    | tail _ hrequires ih =>
      obtain ⟨m, hm, hmem⟩ := hrequires
      obtain ⟨m', hm', hsub⟩ := h.closed _ ih List.not_mem_nil
      have hsame : m = m' := Except.ok.inj
        (((r.manifest_eq_ok files).mpr hm).symm.trans ((r.manifest_eq_ok files).mpr hm'))
      exact hsub (hsame ▸ hmem)

theorem closure_ok_iff {c : Coordinate} :
    (∃ found, r.closure files c = .ok found) ↔
      ∀ d, r.Reaches files c d → ∃ m, r.HasModule files d m := by
  obtain ⟨out, h⟩ := exists_collects_single r files c
  rw [h.closure_eq]
  cases out with
  | error e =>
    obtain ⟨c', hc', d, hreach, hfailed⟩ := h.failed
    obtain rfl := List.mem_singleton.mp hc'
    refine ⟨fun ⟨_, hfound⟩ => (nomatch hfound), fun hall => ?_⟩
    obtain ⟨m, hm⟩ := hall d hreach
    rw [(r.manifest_eq_ok files).mpr hm] at hfailed
    cases hfailed
  | ok t =>
    refine ⟨fun _ d hd => ?_, fun _ => ⟨t.found, rfl⟩⟩
    obtain ⟨m, hm, -⟩ := h.closed d ((h.visited_iff d).mpr hd) List.not_mem_nil
    exact ⟨m, hm⟩

theorem mem_closure {c : Coordinate} {found : OrderedSet Path}
    (hfound : r.closure files c = .ok found) (p : Path) :
    p ∈ found.toList ↔ ∃ d, r.Reaches files c d ∧ p = r.pathOf d := by
  obtain ⟨out, h⟩ := exists_collects_single r files c
  rw [h.closure_eq] at hfound
  cases out with
  | error e => cases hfound
  | ok t =>
    cases hfound
    have hfaithful : t.Faithful r := h.faithful (Collection.faithful_start r)
    simp only [hfaithful p, h.visited_iff]

/-- The collection of what a coordinate brings along comes to an end and is what the repository
answers. It succeeds if and only if there is a module for every coordinate that is reached, and then
the places that are found are those of the coordinates that are reached. -/
theorem closure_reaches (r : Repository) (files : FileTree) (c : Coordinate) :
    (∃ out, r.Collects files [c] .start out) ∧
    (∀ out, r.Collects files [c] .start out → r.closure files c = out.map Collection.found) ∧
    ((∃ found, r.closure files c = .ok found) ↔
      ∀ d, r.Reaches files c d → ∃ m, r.HasModule files d m) ∧
    ∀ found, r.closure files c = .ok found →
      ∀ p, p ∈ found.toList ↔ ∃ d, r.Reaches files c d ∧ p = r.pathOf d :=
  ⟨exists_collects_single r files c, fun _ h => h.closure_eq, closure_ok_iff,
    fun _ => mem_closure⟩

/-- The text of a module of one class that requires one other module. -/
def pairText (name required cls : String) : String :=
  "[module]\ngroup='g'\nname='" ++ name ++ "'\nversion='1'\nrequires=['" ++ required ++
    "']\n[[class]]\nname='" ++ cls ++ "'\nentry='indent'\n"

/-- A directory with two modules that require each other. -/
def pairFiles : FileTree where
  workingDirectory := []
  nodes := .ofList
    [(["r"], .directory), (["r", "g"], .directory), (["r", "g", "a"], .directory),
      (["r", "g", "a", "1"], .directory), (["r", "g", "b"], .directory),
      (["r", "g", "b", "1"], .directory),
      (["r", "g", "a", "1", "a-1.toml"], .file (Bytes.ofText (pairText "a" "g:b:1" "A"))),
      (["r", "g", "b", "1", "b-1.toml"], .file (Bytes.ofText (pairText "b" "g:a:1" "B")))]

def pair : Repository := ⟨⟨"r"⟩⟩

def firstOfPair : Coordinate := (Coordinate.ofSegments? ["g", "a", "1"]).get (by decide)

def secondOfPair : Coordinate := (Coordinate.ofSegments? ["g", "b", "1"]).get (by decide)

theorem pair_first : pair.manifest pairFiles firstOfPair =
    .ok ⟨⟨"g", "a", "1", [secondOfPair]⟩, [⟨"A", "indent", ["format"]⟩]⟩ := by
  decide +kernel

theorem pair_second : pair.manifest pairFiles secondOfPair =
    .ok ⟨⟨"g", "b", "1", [firstOfPair]⟩, [⟨"B", "indent", ["format"]⟩]⟩ := by
  decide +kernel

theorem pair_collects : pair.Collects pairFiles [firstOfPair] .start
    (.ok ((Collection.start.add pair firstOfPair).add pair secondOfPair)) :=
  .enter List.not_mem_nil pair_first
    (.enter (by decide) pair_second (.skip (by decide) .done) .done) .done

theorem pair_reaches : pair.Reaches pairFiles firstOfPair secondOfPair :=
  .single ⟨_, (pair.manifest_eq_ok pairFiles).mp pair_first, List.mem_cons_self⟩

theorem closure_reaches_pair :
    ∃ found, pair.closure pairFiles firstOfPair = .ok found ∧
      pair.pathOf firstOfPair ∈ found.toList ∧ pair.pathOf secondOfPair ∈ found.toList := by
  obtain ⟨-, hanswer, -, hfound⟩ := closure_reaches pair pairFiles firstOfPair
  have hclosure := hanswer _ pair_collects
  exact ⟨_, hclosure, (hfound _ hclosure _).mpr ⟨firstOfPair, .refl, rfl⟩,
    (hfound _ hclosure _).mpr ⟨secondOfPair, pair_reaches, rfl⟩⟩

end Repository

end FormatterModules
