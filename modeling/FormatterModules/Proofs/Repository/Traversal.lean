import FormatterModules.Proofs.Failure.Sequence
import FormatterModules.Proofs.Repository.Closure

namespace FormatterModules.Repository

variable (r : Repository) (files : FileTree)

def requirements (c : Coordinate) : List Coordinate :=
  match r.manifest files c with
  | .error _ => []
  | .ok m => m.header.requires

/-- Depth first, and each coordinate once: behind those that were seen before, the pending coordinates
and what they require follow in this order. -/
inductive Visits : List Coordinate → List Coordinate → List Coordinate → Prop
  | done {seen : List Coordinate} : Visits [] seen seen
  | again {c : Coordinate} {rest seen order : List Coordinate} (known : c ∈ seen)
      (next : Visits rest seen order) : Visits (c :: rest) seen order
  | first {c : Coordinate} {rest seen inner order : List Coordinate} (new : c ∉ seen)
      (required : Visits (r.requirements files c) (seen ++ [c]) inner)
      (next : Visits rest inner order) : Visits (c :: rest) seen order

/-- What is wrong where a coordinate has no module. -/
inductive Lacks (c : Coordinate) : Failure → Prop
  | missing (absent : files.isFile (r.pathOf c) = false) :
      Lacks c (.resolution c.render ("not found in repository " ++ r.root.text))
  | unreadable {e : SystemError} (present : files.isFile (r.pathOf c) = true)
      (unread : files.readText (r.pathOf c) = .error e) : Lacks c (.resolution c.render e.message)
  | malformed {text details : String} (read : files.readText (r.pathOf c) = .ok text)
      (refused : Manifest.parse (r.pathOf c).text text = .error (.parse (r.pathOf c).text details)) :
      Lacks c (.parse (r.pathOf c).text details)

variable {r files} {pending seen order other : List Coordinate} {c : Coordinate} {e : Failure}

theorem manifest_eq_error_iff : r.manifest files c = .error e ↔ r.Lacks files c e := by
  unfold manifest
  constructor
  · intro h
    by_cases hfile : files.isFile (r.pathOf c) = true
    · simp only [hfile, if_true] at h
      cases hread : files.readText (r.pathOf c) with
      | error error =>
        rw [hread] at h
        cases h
        exact .unreadable hfile hread
      | ok text =>
        rw [hread] at h
        obtain ⟨details, rfl, -⟩ := Manifest.exists_details_of_parse_eq_error h
        exact .malformed hread h
    · simp only [hfile] at h
      cases h
      exact .missing (by simpa using hfile)
  · intro h
    cases h with
    | missing absent => simp [absent, missing]
    | unreadable present unread => simp [present, unread]
    | malformed read refused =>
      obtain ⟨content, hfind, -⟩ := FileTree.readText_eq_ok.mp read
      simp [FileTree.isFile_of_find hfind, read, refused]

namespace Visits

theorem seen_prefix (h : r.Visits files pending seen order) : seen <+: order := by
  induction h with
  | done => exact List.prefix_rfl
  | again _ _ ih => exact ih
  | first _ _ _ ihr ihn => exact (List.prefix_append _ _).trans (ihr.trans ihn)

theorem nodup (h : r.Visits files pending seen order) (hseen : seen.Nodup) : order.Nodup := by
  induction h with
  | done => exact hseen
  | again _ _ ih => exact ih hseen
  | first new _ _ ihr ihn =>
    exact ihn (ihr (List.nodup_append_comm.mp (List.nodup_cons.mpr ⟨new, hseen⟩)))

theorem unique (h : r.Visits files pending seen order) (h' : r.Visits files pending seen other) :
    order = other := by
  induction h generalizing other with
  | done =>
    cases h'
    rfl
  | again known _ ih =>
    cases h' with
    | again _ next => exact ih next
    | first new => exact absurd known new
  | first new _ _ ihr ihn =>
    cases h' with
    | again known => exact absurd known new
    | first _ required next =>
      obtain rfl := ihr required
      exact ihn next

theorem collects (h : r.Visits files pending seen order) :
    ∃ new, order = seen ++ new ∧ ∀ s : Collection, s.visited = seen.reverse →
      (∀ ms, new.mapM (r.manifest files) = .ok ms →
        ∃ t, r.Collects files pending s (.ok t) ∧ t.visited = order.reverse) ∧
      ∀ e, new.mapM (r.manifest files) = .error e → r.Collects files pending s (.error e) := by
  induction h with
  | @done seen =>
    exact ⟨[], (List.append_nil seen).symm, fun s hs => ⟨fun ms _ => ⟨s, .done, hs⟩, nofun⟩⟩
  | @again c rest seen order known next ih =>
    obtain ⟨new, horder, hcollects⟩ := ih
    refine ⟨new, horder, fun s hs => ?_⟩
    have hvisited : c ∈ s.visited := by rw [hs]; exact List.mem_reverse.mpr known
    obtain ⟨hok, herror⟩ := hcollects s hs
    refine ⟨fun ms hms => ?_, fun e he => .skip hvisited (herror e he)⟩
    obtain ⟨t, ht, horder⟩ := hok ms hms
    exact ⟨t, .skip hvisited ht, horder⟩
  | @first c rest seen inner order hnew required next ihr ihn =>
    obtain ⟨within, rfl, hwithin⟩ := ihr
    obtain ⟨behind, rfl, hbehind⟩ := ihn
    -- The coordinate itself, what it requires and the rest: the first of them that fails ends it all.
    refine ⟨c :: within ++ behind, by simp, fun s hs => ?_⟩
    have hvisited : c ∉ s.visited := by rw [hs]; exact fun hmem => hnew (List.mem_reverse.mp hmem)
    have hadd : (s.add r c).visited = (seen ++ [c]).reverse := by
      rw [List.reverse_append, ← hs]
      rfl
    cases hm : r.manifest files c with
    | error e =>
      have hfailed : (c :: within ++ behind).mapM (r.manifest files) = .error e :=
        Failure.mapM_cons_of_error hm _
      rw [hfailed]
      exact ⟨nofun, fun _ he => Except.error.inj he ▸ .stop hvisited hm⟩
    | ok m =>
      have hrequires : r.requirements files c = m.header.requires := by rw [requirements, hm]
      rw [hrequires] at hwithin
      obtain ⟨hinner, hstops⟩ := hwithin (s.add r c) hadd
      rw [List.cons_append, Failure.mapM_cons_of_ok hm]
      cases hread : within.mapM (r.manifest files) with
      | error e =>
        rw [Failure.mapM_append_of_error hread]
        exact ⟨nofun, fun _ he => Except.error.inj he ▸ .stopWithin hvisited hm (hstops e hread)⟩
      | ok ms =>
        obtain ⟨t, ht, htorder⟩ := hinner ms hread
        obtain ⟨hrest, hrestStops⟩ := hbehind t htorder
        rw [Failure.mapM_append_of_ok hread]
        cases hlast : behind.mapM (r.manifest files) with
        | error e =>
          exact ⟨nofun, fun _ he => Except.error.inj he ▸ .enter hvisited hm ht (hrestStops e hlast)⟩
        | ok last =>
          obtain ⟨t', ht', horder⟩ := hrest last hlast
          exact ⟨fun _ _ => ⟨t', .enter hvisited hm ht ht', horder⟩, nofun⟩

end Visits

theorem exists_visits {all : List Coordinate} (hall : mentioned files ⊆ all)
    (pending seen : List Coordinate) (hp : pending ⊆ all) :
    ∃ order, r.Visits files pending seen order := by
  match pending with
  | [] => exact ⟨seen, .done⟩
  | c :: rest =>
    obtain ⟨hc, hrest⟩ := List.cons_subset.mp hp
    by_cases hseen : c ∈ seen
    · obtain ⟨order, hnext⟩ := exists_visits hall rest seen hrest
      exact ⟨order, .again hseen hnext⟩
    · have hrequires : r.requirements files c ⊆ all := by
        unfold requirements
        split
        · exact List.nil_subset all
        · next m hm => exact requires_subset hall hm
      have hadded : c :: seen ⊆ seen ++ [c] := by simp
      obtain ⟨inner, hinner⟩ := exists_visits hall (r.requirements files c) (seen ++ [c]) hrequires
      obtain ⟨order, hnext⟩ := exists_visits hall rest inner hrest
      exact ⟨order, .first hseen hinner hnext⟩
termination_by ((unvisited all seen).length, pending.length)
decreasing_by
  · exact Prod.Lex.right _ (Nat.lt_succ_self _)
  · exact Prod.Lex.left _ _ (length_unvisited_lt hc hseen hadded)
  · exact Prod.Lex.left _ _
      (length_unvisited_lt hc hseen (List.Subset.trans hadded hinner.seen_prefix.subset))

theorem exists_visits_single (r : Repository) (files : FileTree) (c : Coordinate) :
    ∃ order, r.Visits files [c] [] order :=
  exists_visits (List.subset_cons_self c (mentioned files)) [c] [] (by simp)

theorem closure_eq_error_iff (h : r.Visits files [c] [] order) :
    r.closure files c = .error e ↔
      ∃ before d after, order = before ++ d :: after ∧
        (∀ b ∈ before, ∃ m, r.HasModule files b m) ∧ r.Lacks files d e := by
  have hmapM : r.closure files c = .error e ↔ order.mapM (r.manifest files) = .error e := by
    obtain ⟨_, rfl, hcollects⟩ := h.collects
    obtain ⟨hok, herror⟩ := hcollects .start rfl
    cases hread : order.mapM (r.manifest files) with
    | error e' =>
      rw [(herror e' hread).closure_eq]
      simp [Except.map]
    | ok ms =>
      obtain ⟨t, ht, -⟩ := hok ms hread
      rw [ht.closure_eq]
      exact iff_of_false nofun nofun
  rw [hmapM, Failure.mapM_eq_error_iff]
  simp only [manifest_eq_ok, manifest_eq_error_iff, and_comm]

end FormatterModules.Repository
