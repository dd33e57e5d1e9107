namespace FormatterModules

def AscendingKeys {κ β : Type} [Ord κ] (entries : List (κ × β)) : Prop :=
  entries.Pairwise fun a b => compare a.1 b.1 = .lt

namespace AscendingKeys

variable {κ β : Type} [Ord κ]

def insert (k : κ) (v : β) : List (κ × β) → List (κ × β)
  | [] => [(k, v)]
  | (k', v') :: rest =>
    match compare k k' with
    | .lt => (k, v) :: (k', v') :: rest
    | .eq => (k', v) :: rest
    | .gt => (k', v') :: insert k v rest

theorem key_mem_insert {k : κ} {v : β} {entries : List (κ × β)} {e : κ × β}
    (h : e ∈ insert k v entries) : e.1 = k ∨ e.1 ∈ entries.map Prod.fst := by
  induction entries with
  | nil => simp_all [insert]
  | cons first rest ih =>
    obtain ⟨k', v'⟩ := first
    unfold insert at h
    split at h
    · rcases List.mem_cons.1 h with rfl | h
      · simp
      · exact Or.inr (List.mem_map_of_mem h)
    · rcases List.mem_cons.1 h with rfl | h
      · simp
      · exact Or.inr (List.mem_map_of_mem (List.mem_cons_of_mem _ h))
    · rcases List.mem_cons.1 h with rfl | h
      · simp
      · rcases ih h with h | h
        · exact Or.inl h
        · exact Or.inr (by simpa using Or.inr (by simpa using h))

theorem insert_ascending [Std.TransOrd κ] {k : κ} {v : β} {entries : List (κ × β)}
    (h : AscendingKeys entries) : AscendingKeys (insert k v entries) := by
  induction entries with
  | nil => simp [AscendingKeys, insert]
  | cons first rest ih =>
    obtain ⟨k', v'⟩ := first
    obtain ⟨hfirst, hrest⟩ := List.pairwise_cons.1 h
    unfold insert
    split
    next hlt =>
      refine List.pairwise_cons.2 ⟨?_, h⟩
      intro e he
      rcases List.mem_cons.1 he with rfl | he
      · exact hlt
      · exact Std.TransCmp.lt_trans hlt (hfirst e he)
    next => exact List.pairwise_cons.2 ⟨hfirst, hrest⟩
    next hgt =>
      refine List.pairwise_cons.2 ⟨?_, ih hrest⟩
      intro e he
      rcases key_mem_insert he with hk | hk
      · exact hk ▸ Std.OrientedCmp.lt_of_gt hgt
      · obtain ⟨e', he', heq⟩ := List.mem_map.1 hk
        exact heq ▸ hfirst e' he'

end AscendingKeys

/-- A finite map: pairs of a key and its value, with strictly ascending keys. -/
structure OrderedMap (κ β : Type) [Ord κ] where
  toList : List (κ × β)
  ascending : AscendingKeys toList

namespace OrderedMap

variable {κ β : Type} [Ord κ]

instance [DecidableEq κ] [DecidableEq β] : DecidableEq (OrderedMap κ β) := fun a b =>
  if h : a.toList = b.toList then
    isTrue (by cases a; cases b; cases h; rfl)
  else isFalse fun e => h (e ▸ rfl)

@[ext] theorem ext {a b : OrderedMap κ β} (h : a.toList = b.toList) : a = b := by
  cases a; cases b; cases h; rfl

def empty : OrderedMap κ β := ⟨[], List.Pairwise.nil⟩

instance : EmptyCollection (OrderedMap κ β) := ⟨empty⟩

instance : Inhabited (OrderedMap κ β) := ⟨empty⟩

def get? (m : OrderedMap κ β) (k : κ) : Option β :=
  (m.toList.find? fun e => compare k e.1 == .eq).map Prod.snd

def contains (m : OrderedMap κ β) (k : κ) : Bool := (m.get? k).isSome

def keys (m : OrderedMap κ β) : List κ := m.toList.map Prod.fst

def size (m : OrderedMap κ β) : Nat := m.toList.length

def isEmpty (m : OrderedMap κ β) : Bool := m.toList.isEmpty

/-- The map in which the key has this value; an earlier value of the key is replaced. -/
def insert [Std.TransOrd κ] (m : OrderedMap κ β) (k : κ) (v : β) : OrderedMap κ β :=
  ⟨AscendingKeys.insert k v m.toList, AscendingKeys.insert_ascending m.ascending⟩

/-- The map in which the key has this value, unless it has one already. -/
def insertIfNew [Std.TransOrd κ] (m : OrderedMap κ β) (k : κ) (v : β) : OrderedMap κ β :=
  if m.contains k then m else m.insert k v

def erase (m : OrderedMap κ β) (k : κ) : OrderedMap κ β :=
  ⟨m.toList.filter fun e => compare k e.1 != .eq, m.ascending.filter _⟩

def ofList [Std.TransOrd κ] (entries : List (κ × β)) : OrderedMap κ β :=
  entries.foldl (fun m e => m.insert e.1 e.2) empty

def merge [Std.TransOrd κ] (m other : OrderedMap κ β) : OrderedMap κ β :=
  other.toList.foldl (fun m e => m.insert e.1 e.2) m

end OrderedMap

end FormatterModules
