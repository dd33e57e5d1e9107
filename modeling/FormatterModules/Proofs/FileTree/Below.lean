import Mathlib.Data.List.Induction
import FormatterModules.Proofs.FileTree.Writing

namespace FormatterModules

namespace Path

theorem utf8ByteSize_joinText_lt (p : Path) {name : String} (h : IsEntryName name) :
    p.text.utf8ByteSize < (p.joinText name).text.utf8ByteSize := by
  have hname : name.utf8ByteSize ≠ 0 := fun hn => h.ne_empty (String.utf8ByteSize_eq_zero_iff.mp hn)
  rw [joinText, join, if_neg (by simp [isAbsolute_of_slash_free h.slash_free])]
  split
  · simp only [String.utf8ByteSize_append]
    omega
  · simp only [String.utf8ByteSize_append]
    omega

theorem utf8ByteSize_joinNames_le (p : Path) {names : List String}
    (h : ∀ n ∈ names, IsEntryName n) :
    p.text.utf8ByteSize + names.length ≤ (p.joinNames names).text.utf8ByteSize := by
  induction names generalizing p with
  | nil => exact Nat.le_refl _
  | cons name names ih =>
    have hfirst := p.utf8ByteSize_joinText_lt (h name (by simp))
    have hrest := ih (p.joinText name) fun n hn => h n (by simp [hn])
    change _ ≤ ((p.joinText name).joinNames names).text.utf8ByteSize
    rw [List.length_cons]
    omega

theorem mem_opened {c : Char} (hc : c ≠ '/') (text : List Char) : c ∈ opened text ↔ c ∈ text := by
  unfold opened
  split
  · rfl
  · simp [hc]

theorem mem_joinText (p : Path) {name : String} (h : '/' ∉ name.toList) {c : Char} (hc : c ≠ '/') :
    c ∈ (p.joinText name).text.toList ↔ c ∈ p.text.toList ∨ c ∈ name.toList := by
  rw [toList_joinText p h, List.mem_append, mem_opened hc]

theorem isEmpty_joinText (p : Path) {name : String} (h : IsEntryName name) :
    (p.joinText name).text.isEmpty = false := by
  rw [Bool.eq_false_iff, Ne, String.isEmpty_iff]
  intro hempty
  have htext := toList_joinText p h.slash_free
  rw [hempty] at htext
  have hname : name.toList = [] := (List.append_eq_nil_iff.mp htext.symm).2
  exact h.ne_empty (String.toList_eq_nil_iff.mp hname)

@[simp] theorem joinNames_concat (p : Path) (names : List String) (name : String) :
    p.joinNames (names ++ [name]) = (p.joinNames names).joinText name := by
  rw [joinNames, List.foldl_append]
  rfl

theorem isEmpty_joinNames (p : Path) {names : List String} (h : ∀ n ∈ names, IsEntryName n)
    (hp : p.text.isEmpty = false) : (p.joinNames names).text.isEmpty = false := by
  induction names using List.reverseRecOn with
  | nil => exact hp
  | append_singleton names name _ =>
    rw [joinNames_concat]
    exact isEmpty_joinText _ (h name (by simp))

/-- The same path, spelled with single dots in front. -/
def dotted (p : Path) : Nat → Path
  | 0 => p
  | n + 1 => ⟨"./" ++ (p.dotted n).text⟩

theorem toList_dotted_succ (p : Path) (n : Nat) :
    (p.dotted (n + 1)).text.toList = ['.'] ++ '/' :: (p.dotted n).text.toList := by
  rw [dotted, String.toList_append]
  rfl

theorem utf8ByteSize_dotted (p : Path) (n : Nat) :
    (p.dotted n).text.utf8ByteSize = 2 * n + p.text.utf8ByteSize := by
  induction n with
  | zero => rw [dotted, Nat.mul_zero, Nat.zero_add]
  | succ n ih =>
    have htwo : ("./" : String).utf8ByteSize = 2 := rfl
    rw [dotted, String.utf8ByteSize_append, ih, htwo]
    omega

end Path

namespace FileTree

variable {t other : FileTree} {p q : Path} {d d' : Place}

theorem place_eq_ok_iff {x : Place} :
    t.place p = .ok x ↔ '\x00' ∉ p.text.toList ∧ p.text.isEmpty = false ∧
      p.text.utf8ByteSize ≤ pathLimit ∧
      p.pieces.foldlM t.step (if p.isAbsolute then [] else t.workingDirectory) = .ok x := by
  unfold FileTree.place
  split
  · next hnull => simp [List.contains_iff_mem.mp hnull]
  · next hnull =>
    split
    · next hempty => simp [hempty]
    · next hempty =>
      split
      · next hlong => simp [Nat.not_le.mpr hlong]
      · next hshort => simp_all

theorem foldlM_step_concat {pieces : List (List Char)} {piece : List Char} {place x : Place} :
    (pieces ++ [piece]).foldlM t.step place = .ok x ↔
      ∃ y, pieces.foldlM t.step place = .ok y ∧ t.step y piece = .ok x := by
  rw [List.foldlM_append]
  cases pieces.foldlM t.step place with
  | error e => exact ⟨fun h => (nomatch h), fun ⟨_, h, _⟩ => (nomatch h)⟩
  | ok y =>
    change [piece].foldlM t.step y = .ok x ↔ _
    rw [List.foldlM_cons]
    constructor
    · intro h
      cases hs : t.step y piece with
      | error e => rw [hs] at h; cases h
      | ok z =>
        rw [hs] at h
        exact ⟨y, rfl, hs.trans h⟩
    · rintro ⟨z, hz, hs⟩
      cases hz
      rw [hs]
      rfl

theorem step_nil_iff {y x : Place} : t.step y [] = .ok x ↔ t.hasDirectory y = true ∧ x = y := by
  constructor
  · exact step_eq_ok
  · rintro ⟨h, rfl⟩
    rw [step, if_neg (by simp [h])]
    rfl

theorem place_joinText {name : String} (hname : Path.IsEntryName name) (hp : p.text.isEmpty = false)
    {x : Place} :
    t.place (p.joinText name) = .ok x ↔
      (p.joinText name).text.utf8ByteSize ≤ pathLimit ∧ '\x00' ∉ name.toList ∧
        ∃ y, t.place p = .ok y ∧ t.step y name.toList = .ok x := by
  obtain ⟨habsolute, before, hpieces, hbefore⟩ := p.pieces_joinText hname
  have hnull := p.mem_joinText hname.slash_free (c := '\x00') (by decide)
  have hsize := Nat.le_of_lt (p.utf8ByteSize_joinText_lt hname)
  have hwalk : ∀ start : Place, (before ++ [name.toList]).foldlM t.step start = .ok x ↔
      ∃ y, p.pieces.foldlM t.step start = .ok y ∧ t.step y name.toList = .ok x := by
    intro start
    rw [foldlM_step_concat]
    -- An empty piece at the end leads nowhere else, as whatever has an entry is a directory.
    obtain hbefore | hbefore := hbefore
    · rw [hbefore]
    · simp only [hbefore, foldlM_step_concat, step_nil_iff]
      constructor
      · rintro ⟨y, hy, hs⟩
        exact ⟨y, ⟨y, hy, (step_eq_ok hs).1, rfl⟩, hs⟩
      · rintro ⟨y, ⟨z, hz, -, rfl⟩, hs⟩
        exact ⟨y, hz, hs⟩
  simp only [place_eq_ok_iff, habsolute, hpieces, Path.isEmpty_joinText p hname, hnull, hwalk, hp]
  constructor
  · rintro ⟨hn, -, hl, y, hy, hs⟩
    have hl' := Nat.le_trans hsize hl
    exact ⟨hl, fun h => hn (.inr h), y, ⟨fun h => hn (.inl h), trivial, hl', hy⟩, hs⟩
  · rintro ⟨hl, hn, y, ⟨hn', -, -, hy⟩, hs⟩
    exact ⟨fun h => h.elim hn' hn, trivial, hl, y, hy, hs⟩

theorem step_of_step {name : String} (hname : Path.IsEntryName name) {y x y' : Place}
    (h : t.step y name.toList = .ok x) (hd : other.hasDirectory y' = true) :
    x = y ++ [name] ∧ other.step y' name.toList = .ok (y' ++ [name]) := by
  obtain ⟨hdirectory, hx⟩ := step_eq_ok h
  obtain ⟨hempty, hcurrent, hparent⟩ := hname.toList_ne
  have hstep : ∀ (u : FileTree) (place : Place), u.hasDirectory place = true →
      u.step place name.toList =
        if nameLimit < name.utf8ByteSize then .error .nameTooLong else .ok (place ++ [name]) := by
    intro u place hu
    simp [step, hu, Path.isSkipped, hempty, hcurrent, hparent]
  rw [hstep t y hdirectory] at h
  rw [hstep other y' hd]
  split at h
  · cases h
  · next hshort => exact ⟨(Except.ok.inj h).symm, if_neg hshort⟩

section SameNodes

variable (hp : t.place p = .ok d) (hq : other.place q = .ok d')
  (hnodes : ∀ names, t.node? (d ++ names) = other.node? (d' ++ names))

include hp hq hnodes

theorem place_joinNames {names : List String} (hnames : ∀ n ∈ names, Path.IsEntryName n) {x : Place}
    (hx : t.place (p.joinNames names) = .ok x)
    (hshort : (q.joinNames names).text.utf8ByteSize ≤ pathLimit) :
    x = d ++ names ∧ other.place (q.joinNames names) = .ok (d' ++ names) := by
  induction names using List.reverseRecOn generalizing x with
  | nil =>
    rw [List.append_nil, List.append_nil]
    exact ⟨Except.ok.inj (hx.symm.trans hp), hq⟩
  | append_singleton names name ih =>
    have hbefore : ∀ n ∈ names, Path.IsEntryName n := fun n hn => hnames n (by simp [hn])
    have hname : Path.IsEntryName name := hnames name (by simp)
    have hpe := Path.isEmpty_joinNames p hbefore (place_eq_ok_iff.mp hp).2.1
    have hqe := Path.isEmpty_joinNames q hbefore (place_eq_ok_iff.mp hq).2.1
    rw [Path.joinNames_concat] at hx hshort ⊢
    obtain ⟨-, hnull, y, hy, hs⟩ := (place_joinText hname hpe).mp hx
    have hsize := Nat.le_of_lt ((q.joinNames names).utf8ByteSize_joinText_lt hname)
    obtain ⟨rfl, hother⟩ := ih hbefore hy (Nat.le_trans hsize hshort)
    have hd : other.hasDirectory (d' ++ names) = true := by
      rw [hasDirectory, ← hnodes]
      exact (step_eq_ok hs).1
    obtain ⟨rfl, hstep⟩ := step_of_step hname hs hd
    rw [← List.append_assoc, ← List.append_assoc]
    exact ⟨rfl, (place_joinText hname hqe).mpr ⟨hshort, hnull, _, hother, hstep⟩⟩

theorem find_joinNames {names : List String} (hnames : ∀ n ∈ names, Path.IsEntryName n)
    {node : FileNode} (h : t.find (p.joinNames names) = .ok node)
    (hshort : (q.joinNames names).text.utf8ByteSize ≤ pathLimit) :
    other.find (q.joinNames names) = .ok node := by
  unfold find at h ⊢
  cases hx : t.place (p.joinNames names) with
  | error e => rw [hx] at h; cases h
  | ok x =>
    obtain ⟨rfl, hother⟩ := place_joinNames hp hq hnodes hnames hx hshort
    rw [hx] at h
    rw [hother]
    dsimp only at h ⊢
    rwa [hnodes] at h

end SameNodes

theorem node?_of_find (hp : t.place p = .ok d) {names : List String}
    (hnames : ∀ n ∈ names, Path.IsEntryName n) {node : FileNode}
    (h : t.find (p.joinNames names) = .ok node) :
    (p.joinNames names).text.utf8ByteSize ≤ pathLimit ∧ t.node? (d ++ names) = some node := by
  unfold find at h
  cases hx : t.place (p.joinNames names) with
  | error e => rw [hx] at h; cases h
  | ok x =>
    have hshort := (place_eq_ok_iff.mp hx).2.2.1
    obtain ⟨rfl, -⟩ := place_joinNames hp hp (fun _ => rfl) hnames hx hshort
    rw [hx] at h
    dsimp only at h
    cases hnode : t.node? (d ++ names) with
    | none => rw [hnode] at h; cases h
    | some found =>
      rw [hnode] at h
      cases h
      exact ⟨hshort, rfl⟩

/-- A path leads to the same place in any spelling that is not too long to be followed. -/
theorem place_dotted (hrelative : p.isAbsolute = false)
    (hd : t.hasDirectory t.workingDirectory = true) (hp : t.place p = .ok d) {n : Nat}
    (hshort : (p.dotted n).text.utf8ByteSize ≤ pathLimit) :
    (p.dotted n).isAbsolute = false ∧ t.place (p.dotted n) = .ok d := by
  induction n with
  | zero => exact ⟨hrelative, hp⟩
  | succ n ih =>
    have htext := p.toList_dotted_succ n
    have hsize := p.utf8ByteSize_dotted n
    have hsize' := p.utf8ByteSize_dotted (n + 1)
    obtain ⟨hbefore, hplace⟩ := ih (by omega)
    obtain ⟨hnull, -, -, hwalk⟩ := place_eq_ok_iff.mp hplace
    have habsolute : (p.dotted (n + 1)).isAbsolute = false := by
      rw [Path.isAbsolute, htext]
      rfl
    have hstep : t.step t.workingDirectory ['.'] = .ok t.workingDirectory := by
      rw [step, if_neg (by simp [hd])]
      rfl
    refine ⟨habsolute, place_eq_ok_iff.mpr ⟨?_, ?_, hshort, ?_⟩⟩
    · simpa [htext] using hnull
    · rw [Bool.eq_false_iff, Ne, String.isEmpty_iff, ← String.toList_eq_nil_iff, htext]
      simp
    · rw [habsolute, Path.pieces_of_slash htext]
      rw [hbefore] at hwalk
      change (['.'] :: (p.dotted n).pieces).foldlM t.step t.workingDirectory = .ok d
      rw [List.foldlM_cons, hstep]
      exact hwalk

/-- The same is found at a path of one tree as at a path of another, if anything. -/
def SameAt (files : FileTree) (p : Path) (others : FileTree) (q : Path) : Prop :=
  (files.find p).toOption = (others.find q).toOption

section SameAt

variable {files others : FileTree}

theorem cases_of_toOption_eq {α : Type} {x y : Except SystemError α} (h : x.toOption = y.toOption) :
    (∃ e e', x = .error e ∧ y = .error e') ∨ ∃ a, x = .ok a ∧ y = .ok a := by
  cases x with
  | error e =>
    cases y with
    | error e' => exact .inl ⟨e, e', rfl, rfl⟩
    | ok b => cases h
  | ok a =>
    cases y with
    | error e' => cases h
    | ok b => exact .inr ⟨a, rfl, congrArg Except.ok (Option.some.inj h).symm⟩

/-- Where the same lies below two directories, the same is found by the same names, as long as both
paths can be followed, or neither can. -/
theorem sameAt_joinNames (hp : files.place p = .ok d) (hq : others.place q = .ok d')
    (hnodes : ∀ names, files.node? (d ++ names) = others.node? (d' ++ names))
    {names : List String} (hnames : ∀ n ∈ names, Path.IsEntryName n)
    (hshort : files.node? (d ++ names) ≠ none →
      ((p.joinNames names).text.utf8ByteSize ≤ pathLimit ↔
        (q.joinNames names).text.utf8ByteSize ≤ pathLimit)) :
    SameAt files (p.joinNames names) others (q.joinNames names) := by
  unfold SameAt
  cases hfind : files.find (p.joinNames names) with
  | ok node =>
    obtain ⟨hsize, hnode⟩ := node?_of_find hp hnames hfind
    rw [find_joinNames hp hq hnodes hnames hfind ((hshort (by simp [hnode])).mp hsize)]
  | error e =>
    cases hfind' : others.find (q.joinNames names) with
    | error e' => rfl
    | ok node =>
      obtain ⟨hsize, hnode⟩ := node?_of_find hq hnames hfind'
      have hback := find_joinNames hq hp (fun names => (hnodes names).symm) hnames hfind'
        ((hshort (by simp [hnodes, hnode])).mpr hsize)
      cases hfind.symm.trans hback

theorem SameAt.read (h : SameAt files p others q) :
    (files.read p).toOption = (others.read q).toOption := by
  unfold FileTree.read
  obtain ⟨e, e', hp, hq⟩ | ⟨node, hp, hq⟩ := cases_of_toOption_eq h
  · rw [hp, hq]
    rfl
  · rw [hp, hq]

theorem SameAt.isFile (h : SameAt files p others q) : files.isFile p = others.isFile q := by
  unfold FileTree.isFile
  obtain ⟨e, e', hp, hq⟩ | ⟨node, hp, hq⟩ := cases_of_toOption_eq h
  · rw [hp, hq]
  · rw [hp, hq]

theorem readText_of_read (h : (files.read p).toOption = (others.read q).toOption) :
    (files.readText p).toOption = (others.readText q).toOption := by
  unfold FileTree.readText
  obtain ⟨e, e', hp, hq⟩ | ⟨content, hp, hq⟩ := cases_of_toOption_eq h
  · rw [hp, hq]
    rfl
  · rw [hp, hq]

end SameAt

end FileTree

end FormatterModules
