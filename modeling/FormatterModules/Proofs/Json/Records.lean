import Mathlib.Data.List.Perm.Basic
import FormatterModules.Json.Decoding

namespace FormatterModules.Json

/-- The second value is the first with the members of its objects in other orders. -/
inductive Shuffled : Json → Json → Prop
  | refl (j : Json) : Shuffled j j
  | array {items others : List Json} (items_shuffled : List.Forall₂ Shuffled items others) :
      Shuffled (.array items) (.array others)
  | object {members changed others : List (String × Json)}
      (names_eq : changed.map Prod.fst = members.map Prod.fst)
      (values_shuffled : List.Forall₂ Shuffled (members.map Prod.snd) (changed.map Prod.snd))
      (perm : changed.Perm others) : Shuffled (.object members) (.object others)

/-- The members have the same names in the same order, and values with their members in other orders. -/
structure SameMembers (members changed : List (String × Json)) : Prop where
  names_eq : changed.map Prod.fst = members.map Prod.fst
  values_shuffled : List.Forall₂ Shuffled (members.map Prod.snd) (changed.map Prod.snd)

variable {α σ : Type} {j k : Json} {s : String} {name : String}
variable {members changed others : List (String × Json)}
variable {write : α → Json} {read : Json → Except DecodeError α}
variable {step : σ → String × Json → Except DecodeError σ} {fields result : σ}

theorem eq_of_shuffled_string (h : Shuffled (.string s) j) : j = .string s := by
  cases h
  rfl

theorem exists_of_shuffled_array {items : List Json} (h : Shuffled (.array items) j) :
    ∃ others, j = .array others ∧ List.Forall₂ Shuffled items others := by
  cases h with
  | refl => exact ⟨items, rfl, List.forall₂_same.mpr fun item _ => .refl item⟩
  | array h => exact ⟨_, rfl, h⟩

theorem exists_of_shuffled_object (h : Shuffled (.object members) j) :
    ∃ changed others, j = .object others ∧ SameMembers members changed ∧ changed.Perm others := by
  cases h with
  | refl =>
    exact ⟨members, members, rfl, ⟨rfl, List.forall₂_same.mpr fun value _ => .refl value⟩, .refl _⟩
  | object names_eq values_shuffled perm => exact ⟨_, _, rfl, ⟨names_eq, values_shuffled⟩, perm⟩

theorem sameMembers_nil_iff : SameMembers [] changed ↔ changed = [] := by
  constructor
  · intro h
    exact List.map_eq_nil_iff.mp h.names_eq
  · rintro rfl
    exact ⟨rfl, .nil⟩

theorem exists_of_sameMembers_cons (h : SameMembers ((name, j) :: members) changed) :
    ∃ k rest, changed = (name, k) :: rest ∧ Shuffled j k ∧ SameMembers members rest := by
  obtain ⟨hnames, hvalues⟩ := h
  cases changed with
  | nil => cases hnames
  | cons member rest =>
    obtain ⟨other, k⟩ := member
    obtain ⟨rfl, hrest⟩ := List.cons_eq_cons.mp hnames
    cases hvalues with
    | cons hvalue hvalues => exact ⟨k, rest, rfl, hvalue, hrest, hvalues⟩

theorem eq_of_sameMembers_strings {pairs : List (String × String)}
    (h : SameMembers (pairs.map fun e => (e.1, .string e.2)) changed) :
    changed = pairs.map fun e => (e.1, .string e.2) := by
  induction pairs generalizing changed with
  | nil => exact sameMembers_nil_iff.mp h
  | cons e pairs ih =>
    obtain ⟨k, rest, rfl, hvalue, hrest⟩ := exists_of_sameMembers_cons h
    rw [eq_of_shuffled_string hvalue, ih hrest, List.map_cons]

theorem exists_perm_of_map_perm {f : α → σ} {values : List α} {others : List σ}
    (h : (values.map f).Perm others) : ∃ shuffled, values.Perm shuffled ∧ shuffled.map f = others := by
  have hvalues : List.Forall₂ (fun y x => y = f x) (values.map f) values :=
    List.forall₂_map_left_iff.mpr (List.forall₂_same.mpr fun _ _ => rfl)
  obtain ⟨shuffled, hothers, hperm⟩ := List.perm_comp_forall₂ h.symm hvalues
  refine ⟨shuffled, hperm.symm, ?_⟩
  rw [← List.forall₂_eq_eq_eq, List.forall₂_map_left_iff]
  exact hothers.flip.imp fun _ _ => Eq.symm

def ReadsShuffled (write : α → Json) (read : Json → Except DecodeError α) : Prop :=
  ∀ v j, Shuffled (write v) j → read j = .ok v

theorem toText_shuffled : ReadsShuffled .string toText := by
  intro s j h
  rw [eq_of_shuffled_string h]
  rfl

theorem toList_shuffled (h : ReadsShuffled write read) :
    ReadsShuffled (fun values => .array (values.map write)) (toList read) := by
  intro values j hj
  obtain ⟨others, rfl, hothers⟩ := exists_of_shuffled_array hj
  change readAll read others = .ok values
  clear hj
  induction values generalizing others with
  | nil =>
    cases hothers
    rfl
  | cons v values ih =>
    cases hothers with
    | cons hitem hrest =>
      rw [readAll, h v _ hitem, ih _ hrest]
      rfl

theorem fill_eq_ok_iff {slot filled : Slot α} :
    fill name read slot j = .ok filled ↔ slot = none ∧ ∃ v, read j = .ok v ∧ some v = filled := by
  unfold fill
  cases slot with
  | some _ => simp
  | none => cases read j <;> simp [Except.map]

theorem map_fill_eq_ok_iff {slot : Slot α} {put : Slot α → σ} :
    (fill name read slot j).map put = .ok result ↔
      slot = none ∧ ∃ v, read j = .ok v ∧ put (some v) = result := by
  cases hfill : fill name read slot j with
  | error e =>
    refine iff_of_false (by rintro ⟨⟩) fun ⟨hslot, v, hv, _⟩ => ?_
    cases hfill.symm.trans (fill_eq_ok_iff.mpr ⟨hslot, v, hv, rfl⟩)
  | ok filled =>
    obtain ⟨hslot, v, hv, rfl⟩ := fill_eq_ok_iff.mp hfill
    simp [Except.map, hslot, hv]

theorem foldlM_cons_eq_ok_iff {member : String × Json} :
    (member :: members).foldlM step fields = .ok result ↔
      ∃ next, step fields member = .ok next ∧ members.foldlM step next = .ok result := by
  rw [List.foldlM_cons]
  cases step fields member with
  | error e => exact iff_of_false (by rintro ⟨⟩) (by rintro ⟨_, ⟨⟩, _⟩)
  | ok next => simp [bind, Except.bind]

/-- Two members that can be taken in one after the other can be taken in the other way round. -/
def CanSwap (step : σ → String × Json → Except DecodeError σ) : Prop :=
  ∀ ⦃fields between result : σ⦄ ⦃a b : String × Json⦄, step fields a = .ok between →
    step between b = .ok result → ∃ other, step fields b = .ok other ∧ step other a = .ok result

theorem CanSwap.foldlM_perm (hswap : CanSwap step) (hperm : members.Perm others)
    (h : members.foldlM step fields = .ok result) : others.foldlM step fields = .ok result := by
  induction hperm generalizing fields with
  | nil => exact h
  | cons member _ ih =>
    obtain ⟨next, hnext, hrest⟩ := foldlM_cons_eq_ok_iff.mp h
    exact foldlM_cons_eq_ok_iff.mpr ⟨next, hnext, ih hrest⟩
  | swap a b members =>
    obtain ⟨between, hb, hrest⟩ := foldlM_cons_eq_ok_iff.mp h
    obtain ⟨next, ha, hrest⟩ := foldlM_cons_eq_ok_iff.mp hrest
    obtain ⟨other, ha, hb⟩ := hswap hb ha
    exact foldlM_cons_eq_ok_iff.mpr ⟨other, ha, foldlM_cons_eq_ok_iff.mpr ⟨next, hb, hrest⟩⟩
  | trans _ _ ih ih' => exact ih' (ih h)

end FormatterModules.Json
