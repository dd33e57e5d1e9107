import Mathlib.Data.List.Basic
import FormatterModules.Path
import FormatterModules.Proofs.Ordered.Set
import FormatterModules.Proofs.Text.Pieces

namespace FormatterModules.Path

instance : Std.LawfulEqOrd Component where
  eq_of_compare {a b} h := by
    obtain ⟨hrank, hlabel⟩ := compareLex_eq_eq.mp h
    have hrank : a.rank = b.rank := compareOn_eq_eq.mp hrank
    have hlabel : a.label = b.label := compareOn_eq_eq.mp hlabel
    cases a <;> cases b <;> simp_all [Component.rank, Component.label]

theorem components_eq_of_compare {p q : Path} (h : compare p q = .eq) :
    p.components = q.components :=
  compareOn_eq_eq.mp h

/-- The text names an entry of a directory and nothing else. -/
structure IsEntryName (name : String) : Prop where
  ne_empty : name ≠ ""
  ne_current : name ≠ "."
  ne_parent : name ≠ ".."
  slash_free : '/' ∉ name.toList

theorem IsEntryName.toList_ne {name : String} (h : IsEntryName name) :
    name.toList ≠ [] ∧ name.toList ≠ ['.'] ∧ name.toList ≠ ['.', '.'] :=
  ⟨fun hn => h.ne_empty (String.toList_eq_nil_iff.mp hn),
    fun hn => h.ne_current (String.toList_injective hn),
    fun hn => h.ne_parent (String.toList_injective hn)⟩

/-- A text with a slash behind it, unless it is empty or ends in one. -/
def opened (text : List Char) : List Char :=
  if text = [] ∨ text.getLast? = some '/' then text else text ++ ['/']

theorem opened_cases (text : List Char) :
    (text = [] ∧ opened text = []) ∨
      ∃ q, opened text = q ++ ['/'] ∧ (text = q ++ ['/'] ∨ text = q ∧ q ≠ []) := by
  unfold opened
  split
  · next h =>
    obtain rfl | h := h
    · exact .inl ⟨rfl, rfl⟩
    · obtain ⟨q, hq⟩ := List.getLast?_eq_some_iff.mp h
      exact .inr ⟨q, hq, .inl hq⟩
  · next h => exact .inr ⟨text, rfl, .inr ⟨rfl, fun hnil => h (.inl hnil)⟩⟩

@[simp] theorem opened_opened (text : List Char) : opened (opened text) = opened text := by
  obtain ⟨-, h⟩ | ⟨q, h, -⟩ := opened_cases text
  · rw [h]
    rfl
  · rw [h, opened, if_pos (.inr List.getLast?_concat)]

theorem isAbsolute_of_slash_free {s : String} (h : '/' ∉ s.toList) :
    (Path.mk s).isAbsolute = false := by
  rw [isAbsolute, beq_eq_false_iff_ne]
  exact fun hhead => h (List.mem_of_head? hhead)

theorem toList_join (p : Path) {q : Path} (h : q.isAbsolute = false) :
    (p.join q).text.toList = opened p.text.toList ++ q.text.toList := by
  have hopen : (p.text.isEmpty || p.text.toList.getLast? == some '/') = true ↔
      p.text.toList = [] ∨ p.text.toList.getLast? = some '/' := by
    rw [Bool.or_eq_true, beq_iff_eq, String.isEmpty_iff, String.toList_eq_nil_iff]
  rw [join, if_neg (by simp [h]), opened]
  by_cases hp : p.text.toList = [] ∨ p.text.toList.getLast? = some '/'
  · rw [if_pos (hopen.mpr hp), if_pos hp, String.toList_append]
  · rw [if_neg (mt hopen.mp hp), if_neg hp, String.toList_append, String.toList_append]
    rfl

theorem toList_joinText (p : Path) {s : String} (h : '/' ∉ s.toList) :
    (p.joinText s).text.toList = opened p.text.toList ++ s.toList :=
  toList_join p (isAbsolute_of_slash_free h)

theorem joinText_empty_joinText (p : Path) {s : String} (h : '/' ∉ s.toList) :
    (p.joinText "").joinText s = p.joinText s := by
  have htext : ((p.joinText "").joinText s).text.toList = (p.joinText s).text.toList := by
    rw [toList_joinText _ h, toList_joinText _ h, toList_joinText p (by simp)]
    simp
  exact congrArg Path.mk (String.toList_injective htext)

/-- The component that tells where a path starts, if there is one. -/
def start (p : Path) : List Component :=
  if p.isAbsolute then [.root] else if p.pieces.head? == some ['.'] then [.current] else []

def stepsOf (pieces : List (List Char)) : List Component :=
  (pieces.filter fun piece => !isSkipped piece).map componentOf

theorem components_eq (p : Path) : p.components = p.start ++ stepsOf p.pieces := by
  unfold components start stepsOf
  split
  · rfl
  · split <;> rfl

theorem stepsOf_append (before after : List (List Char)) :
    stepsOf (before ++ after) = stepsOf before ++ stepsOf after := by
  rw [stepsOf, List.filter_append, List.map_append, stepsOf, stepsOf]

theorem IsEntryName.stepsOf {name : String} (h : IsEntryName name) :
    stepsOf [name.toList] = [.named name] := by
  obtain ⟨hempty, hcurrent, hparent⟩ := h.toList_ne
  simp [Path.stepsOf, isSkipped, componentOf, hempty, hcurrent, hparent]

theorem pieces_of_slash {p : Path} {before after : List Char}
    (h : p.text.toList = before ++ '/' :: after) :
    p.pieces = Text.splitOn '/' before ++ Text.splitOn '/' after := by
  rw [pieces, h]
  exact List.splitOn_append_cons_self before after

theorem pieces_joinText (p : Path) {name : String} (h : IsEntryName name) :
    (p.joinText name).isAbsolute = p.isAbsolute ∧
      ∃ before, (p.joinText name).pieces = before ++ [name.toList] ∧
        (p.pieces = before ∨ p.pieces = before ++ [[]]) := by
  have htext := toList_joinText p h.slash_free
  have hname := Text.splitOn_of_notMem h.slash_free
  obtain ⟨hp, hopened⟩ | ⟨before, hopened, hp⟩ := opened_cases p.text.toList
  · rw [hopened, List.nil_append] at htext
    have habsolute : name.toList.head? ≠ some '/' := fun hn => h.slash_free (List.mem_of_head? hn)
    refine ⟨?_, [], by rw [pieces, htext, hname]; rfl, .inr (by rw [pieces, hp]; rfl)⟩
    rw [isAbsolute, isAbsolute, htext, hp]
    simpa using habsolute
  · rw [hopened, List.append_assoc, List.singleton_append] at htext
    refine ⟨?_, Text.splitOn '/' before, by rw [pieces_of_slash htext, hname], ?_⟩
    · unfold isAbsolute
      obtain hp | ⟨hp, hbefore⟩ := hp
      · rw [htext, hp, List.head?_append, List.head?_append]
        rfl
      · rw [htext, hp, List.head?_append_of_ne_nil _ hbefore]
    · obtain hp | ⟨hp, -⟩ := hp
      · exact .inr (pieces_of_slash hp)
      · exact .inl (by rw [pieces, hp])

theorem components_joinText (p : Path) {name : String} (h : IsEntryName name) :
    (p.joinText name).components = p.components ++ [.named name] := by
  have htext := toList_joinText p h.slash_free
  have hname := Text.splitOn_of_notMem h.slash_free
  obtain ⟨hp, hopened⟩ | ⟨before, hopened, hp⟩ := opened_cases p.text.toList
  · -- Nothing stands in front of the name, so it decides alone where the path starts.
    rw [hopened, List.nil_append] at htext
    obtain rfl : p = ⟨""⟩ := congrArg Path.mk (String.toList_eq_nil_iff.mp hp)
    have hcurrent := h.toList_ne.2.1
    have habsolute : name.toList.head? ≠ some '/' := fun hn => h.slash_free (List.mem_of_head? hn)
    have hpieces : (joinText ⟨""⟩ name).pieces = [name.toList] := by rw [pieces, htext, hname]
    have hstart : (joinText ⟨""⟩ name).start = [] := by
      rw [start, isAbsolute, htext, hpieces, if_neg (by simpa using habsolute),
        if_neg (by simpa using hcurrent)]
    rw [components_eq, hstart, hpieces, h.stepsOf]
    rfl
  · rw [hopened, List.append_assoc, List.singleton_append] at htext
    have hpieces := pieces_of_slash htext
    rw [hname] at hpieces
    have hne : Text.splitOn '/' before ≠ [] := List.splitOn_ne_nil '/' before
    have hstart : (p.joinText name).start = p.start := by
      unfold start isAbsolute
      rw [hpieces, htext, List.head?_append_of_ne_nil _ hne]
      obtain hp | ⟨hp, hbefore⟩ := hp
      · rw [pieces_of_slash hp, hp, List.head?_append_of_ne_nil _ hne, List.head?_append,
          List.head?_append]
        rfl
      · rw [pieces, hp, List.head?_append_of_ne_nil _ hbefore]
    have hsteps : stepsOf (Text.splitOn '/' before) = stepsOf p.pieces := by
      obtain hp | ⟨hp, -⟩ := hp
      · rw [pieces_of_slash hp, stepsOf_append]
        exact (List.append_nil _).symm
      · rw [pieces, hp]
    rw [components_eq, components_eq, hstart, hpieces, stepsOf_append, hsteps, h.stepsOf,
      List.append_assoc]

/-- The path to an entry, through the named directories. -/
def joinNames (p : Path) (names : List String) : Path := names.foldl joinText p

theorem components_joinNames (p : Path) {names : List String} (h : ∀ n ∈ names, IsEntryName n) :
    (p.joinNames names).components = p.components ++ names.map .named := by
  induction names generalizing p with
  | nil => exact (List.append_nil _).symm
  | cons name names ih =>
    obtain ⟨hname, hnames⟩ := List.forall_mem_cons.mp h
    change ((p.joinText name).joinNames names).components = _
    rw [ih _ hnames, components_joinText p hname, List.append_assoc]
    rfl

theorem joinNames_joinText_empty (p : Path) {name : String} (h : '/' ∉ name.toList)
    (names : List String) :
    (p.joinText "").joinNames (name :: names) = p.joinNames (name :: names) :=
  congrArg (fun q : Path => q.joinNames names) (joinText_empty_joinText p h)

theorem joinNames_filter (p : Path) {names : List String} {last : String}
    (h : ∀ n ∈ names, n = "" ∨ IsEntryName n) (hlast : IsEntryName last) :
    p.joinNames (names ++ [last]) = p.joinNames (names.filter (· ≠ "") ++ [last]) := by
  induction names generalizing p with
  | nil => rfl
  | cons name names ih =>
    obtain ⟨hname, hnames⟩ := List.forall_mem_cons.mp h
    change (p.joinText name).joinNames (names ++ [last]) = _
    rw [ih _ hnames]
    obtain rfl | hname := hname
    · rw [List.filter_cons_of_neg (by simp)]
      obtain ⟨first, rest, hcons⟩ : ∃ first rest, names.filter (· ≠ "") ++ [last] = first :: rest :=
        List.exists_cons_of_ne_nil (by simp)
      have hfirst : IsEntryName first := by
        have hmem : first ∈ names.filter (· ≠ "") ++ [last] := hcons ▸ List.mem_cons_self
        obtain hmem | hmem := List.mem_append.mp hmem
        · obtain ⟨hmem, hne⟩ := List.mem_filter.mp hmem
          exact (hnames first hmem).resolve_left (of_decide_eq_true hne)
        · exact List.mem_singleton.mp hmem ▸ hlast
      rw [hcons, joinNames_joinText_empty p hfirst.slash_free]
    · rw [List.filter_cons_of_pos (by simpa using hname.ne_empty)]
      rfl

theorem joinNames_eq_of_compare (p : Path) {names others : List String}
    (h : ∀ n ∈ names, IsEntryName n) (ho : ∀ n ∈ others, IsEntryName n)
    (heq : compare (p.joinNames names) (p.joinNames others) = .eq) : names = others := by
  have hcomponents := components_eq_of_compare heq
  rw [components_joinNames p h, components_joinNames p ho] at hcomponents
  have hnamed := List.append_cancel_left hcomponents
  exact List.map_injective_iff.mpr (fun _ _ he => Component.named.inj he) hnamed

theorem compare_append (before xs ys : List Component) :
    compare (before ++ xs) (before ++ ys) = compare xs ys := by
  induction before with
  | nil => rfl
  | cons c before ih =>
    rw [List.cons_append, List.cons_append, ← ih]
    simp [List.compare_cons_cons]

theorem compare_joinNames (p q : Path) {names others : List String}
    (h : ∀ n ∈ names, IsEntryName n) (ho : ∀ n ∈ others, IsEntryName n) :
    compare (p.joinNames names) (p.joinNames others) =
      compare (q.joinNames names) (q.joinNames others) := by
  change compare (p.joinNames names).components (p.joinNames others).components =
    compare (q.joinNames names).components (q.joinNames others).components
  rw [components_joinNames p h, components_joinNames p ho, components_joinNames q h,
    components_joinNames q ho, compare_append, compare_append]

theorem lastName_joinText (p : Path) {name : String} (h : IsEntryName name) :
    (p.joinText name).lastName = name := by
  rw [lastName, fileName?, components_joinText p h, List.getLast?_concat]
  rfl

end FormatterModules.Path
