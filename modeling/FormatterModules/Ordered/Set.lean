namespace FormatterModules

def Ascending {α : Type} [Ord α] (xs : List α) : Prop :=
  xs.Pairwise fun a b => compare a b = .lt

namespace Ascending

variable {α : Type} [Ord α]

def insert (x : α) : List α → List α
  | [] => [x]
  | y :: ys =>
    match compare x y with
    | .lt => x :: y :: ys
    | .eq => y :: ys
    | .gt => y :: insert x ys

theorem mem_insert {x z : α} {xs : List α} (h : z ∈ insert x xs) : z = x ∨ z ∈ xs := by
  induction xs with
  | nil => simpa [insert] using h
  | cons y ys ih =>
    unfold insert at h
    split at h
    · simpa using h
    · exact Or.inr h
    · rcases List.mem_cons.1 h with rfl | h
      · simp
      · rcases ih h with rfl | h <;> simp [*]

theorem insert_ascending [Std.TransOrd α] {x : α} {xs : List α} (h : Ascending xs) :
    Ascending (insert x xs) := by
  induction xs with
  | nil => simp [Ascending, insert]
  | cons y ys ih =>
    obtain ⟨hy, hys⟩ := List.pairwise_cons.1 h
    unfold insert
    split
    next hlt =>
      refine List.pairwise_cons.2 ⟨?_, h⟩
      intro z hz
      rcases List.mem_cons.1 hz with rfl | hz
      · exact hlt
      · exact Std.TransCmp.lt_trans hlt (hy z hz)
    next => exact h
    next hgt =>
      refine List.pairwise_cons.2 ⟨?_, ih hys⟩
      intro z hz
      rcases mem_insert hz with rfl | hz
      · exact Std.OrientedCmp.lt_of_gt hgt
      · exact hy z hz

end Ascending

/-- A finite set: a strictly ascending list of its elements. -/
structure OrderedSet (α : Type) [Ord α] where
  toList : List α
  ascending : Ascending toList

namespace OrderedSet

variable {α : Type} [Ord α]

instance [DecidableEq α] : DecidableEq (OrderedSet α) := fun a b =>
  if h : a.toList = b.toList then
    isTrue (by cases a; cases b; cases h; rfl)
  else isFalse fun e => h (e ▸ rfl)

@[ext] theorem ext {a b : OrderedSet α} (h : a.toList = b.toList) : a = b := by
  cases a; cases b; cases h; rfl

def empty : OrderedSet α := ⟨[], List.Pairwise.nil⟩

instance : EmptyCollection (OrderedSet α) := ⟨empty⟩

instance : Inhabited (OrderedSet α) := ⟨empty⟩

def singleton (x : α) : OrderedSet α := ⟨[x], List.pairwise_singleton _ _⟩

def contains (s : OrderedSet α) (x : α) : Bool := s.toList.any fun y => compare x y == .eq

def size (s : OrderedSet α) : Nat := s.toList.length

def isEmpty (s : OrderedSet α) : Bool := s.toList.isEmpty

def insert [Std.TransOrd α] (s : OrderedSet α) (x : α) : OrderedSet α :=
  ⟨Ascending.insert x s.toList, Ascending.insert_ascending s.ascending⟩

/-- The set of the listed elements; of those that compare equal, the last. -/
def ofList [Std.TransOrd α] (xs : List α) : OrderedSet α := xs.foldr (fun x s => s.insert x) empty

/-- All elements of both sets; of equal ones, that of the first set. -/
def union [Std.TransOrd α] (s t : OrderedSet α) : OrderedSet α := t.toList.foldl insert s

end OrderedSet

end FormatterModules
