import RuleSets.OrderedSet

/-!
# Ordered maps

A finite map kept as a list of its entries in increasing order of keys, so that a map has one
representation.  The main statements are `get?_insert`, `get?_erase` and `ext`: a map is determined
by what it holds at every key.
-/

namespace RuleSets

/-- A finite map, listed in increasing order of keys. -/
structure OrderedMap (κ : Type) (α : Type) [LT κ] where
  toList : List (κ × α)
  sorted : toList.Pairwise (·.1 < ·.1)

namespace OrderedMap

section Search
variable {κ α : Type} [DecidableEq κ]

/-- What a list of entries holds at a key. -/
def find (k : κ) : List (κ × α) → Option α
  | [] => none
  | (j, a) :: l => if j = k then some a else find k l

theorem find_eq_none {k : κ} {l : List (κ × α)} (h : ∀ e ∈ l, e.1 ≠ k) : find k l = none := by
  induction l with
  | nil => rfl
  | cons b l ih =>
    simp only [find]
    rw [if_neg (h b (by simp))]
    exact ih fun e he => h e (List.mem_cons_of_mem _ he)

theorem mem_of_find {k : κ} {a : α} {l : List (κ × α)} (h : find k l = some a) : (k, a) ∈ l := by
  induction l with
  | nil => simp [find] at h
  | cons b l ih =>
    simp only [find] at h
    split at h
    · rename_i hb
      cases h
      subst hb
      exact List.mem_cons_self ..
    · exact List.mem_cons_of_mem _ (ih h)

variable [LT κ] [StrictlyOrdered κ]

theorem find_of_mem {k : κ} {a : α} {l : List (κ × α)} (hl : l.Pairwise (·.1 < ·.1))
    (h : (k, a) ∈ l) : find k l = some a := by
  induction l with
  | nil => simp at h
  | cons b l ih =>
    rw [List.pairwise_cons] at hl
    rcases List.mem_cons.1 h with rfl | h
    · simp [find]
    · have hb : b.1 ≠ k := fun hb =>
        StrictlyOrdered.irrefl k (by have := hl.1 _ h; rwa [hb] at this)
      simp [find, hb, ih hl.2 h]

theorem find_filter {p : κ → α → Bool} {l : List (κ × α)} (h : l.Pairwise (·.1 < ·.1)) (k : κ) :
    find k (l.filter fun e => p e.1 e.2) = (find k l).filter (p k) := by
  induction l with
  | nil => rfl
  | cons b l ih =>
    rw [List.pairwise_cons] at h
    by_cases hb : b.1 = k
    · have hnone : find k l = none :=
        find_eq_none fun e he hek =>
          StrictlyOrdered.irrefl k (by have := h.1 e he; rwa [hb, hek] at this)
      subst hb
      by_cases hp : p b.1 b.2 = true
      · simp [hp, find, Option.filter]
      · simp only [List.filter_cons, hp, Bool.false_eq_true, if_false, ih h.2, hnone, find, if_true]
        simp [Option.filter, hp]
    · by_cases hp : p b.1 b.2 = true
      · simp [hp, find, hb, ih h.2]
      · simp [hp, find, hb, ih h.2]

end Search

section Insertion
variable {κ α : Type} [LT κ] [DecidableLT κ] [DecidableEq κ]

/-- Put an entry at its place in an increasing list, replacing the entry of its key. -/
def insertSorted (k : κ) (a : α) : List (κ × α) → List (κ × α)
  | [] => [(k, a)]
  | (j, b) :: l =>
    if k < j then (k, a) :: (j, b) :: l
    else if k = j then (k, a) :: l
    else (j, b) :: insertSorted k a l

theorem mem_insertSorted {k : κ} {a : α} {e : κ × α} {l : List (κ × α)}
    (h : e ∈ insertSorted k a l) :
    e = (k, a) ∨ e ∈ l := by
  induction l with
  | nil => simpa [insertSorted] using h
  | cons b l ih =>
    unfold insertSorted at h
    split at h
    · simpa using h
    · split at h
      · rcases List.mem_cons.1 h with h | h
        · exact Or.inl h
        · exact Or.inr (List.mem_cons_of_mem _ h)
      · rcases List.mem_cons.1 h with h | h
        · exact Or.inr (h ▸ List.mem_cons_self ..)
        · exact (ih h).imp_right (List.mem_cons_of_mem _)

theorem insertSorted_sorted [StrictlyOrdered κ] {k : κ} {a : α} {l : List (κ × α)}
    (h : l.Pairwise (·.1 < ·.1)) : (insertSorted k a l).Pairwise (·.1 < ·.1) := by
  induction l with
  | nil => simp [insertSorted]
  | cons b l ih =>
    rw [List.pairwise_cons] at h
    unfold insertSorted
    split
    · rename_i hk
      refine List.pairwise_cons.2 ⟨?_, List.pairwise_cons.2 h⟩
      intro e he
      rcases List.mem_cons.1 he with rfl | he
      · exact hk
      · exact StrictlyOrdered.trans hk (h.1 e he)
    · split
      · rename_i hk
        subst hk
        exact List.pairwise_cons.2 h
      · rename_i hk hne
        refine List.pairwise_cons.2 ⟨?_, ih h.2⟩
        intro e he
        rcases mem_insertSorted he with rfl | he
        · rcases StrictlyOrdered.compare k b.1 with hc | hc | hc
          · exact absurd hc hk
          · exact absurd hc hne
          · exact hc
        · exact h.1 e he

theorem find_insertSorted [StrictlyOrdered κ] (k j : κ) (a : α) (l : List (κ × α)) :
    find j (insertSorted k a l) = if k = j then some a else find j l := by
  induction l with
  | nil => rfl
  | cons b l ih =>
    unfold insertSorted
    split
    · rfl
    · split
      · rename_i hk
        subst hk
        simp only [find]
        split <;> rfl
      · rename_i hne
        simp only [find, ih]
        by_cases hb : b.1 = j
        · simp [hb, show ¬ k = j from fun h => hne (h.trans hb.symm)]
        · simp [hb]

end Insertion

variable {κ α : Type} [LT κ]

/-- The map without entries. -/
def empty : OrderedMap κ α := ⟨[], List.Pairwise.nil⟩

instance : EmptyCollection (OrderedMap κ α) := ⟨empty⟩
instance : Inhabited (OrderedMap κ α) := ⟨∅⟩

instance [DecidableEq κ] [DecidableEq α] : DecidableEq (OrderedMap κ α) := fun m n =>
  decidable_of_iff (m.toList = n.toList)
    ⟨fun h => by cases m; cases n; cases h; rfl, fun h => h ▸ rfl⟩

/-- The keys, in increasing order. -/
def keys (m : OrderedMap κ α) : List κ := m.toList.map (·.1)

/-- The entries that satisfy `p`. -/
def filter (p : κ → α → Bool) (m : OrderedMap κ α) : OrderedMap κ α :=
  ⟨m.toList.filter fun e => p e.1 e.2, m.sorted.sublist List.filter_sublist⟩

variable [DecidableEq κ]

/-- What a map holds at a key. -/
def get? (m : OrderedMap κ α) (k : κ) : Option α := find k m.toList

/-- Take off the entry of a key. -/
def erase (m : OrderedMap κ α) (k : κ) : OrderedMap κ α := m.filter fun j _ => j ≠ k

variable [StrictlyOrdered κ]

theorem mem_toList {m : OrderedMap κ α} {k : κ} {a : α} : (k, a) ∈ m.toList ↔ m.get? k = some a :=
  ⟨find_of_mem m.sorted, mem_of_find⟩

theorem get?_filter (m : OrderedMap κ α) (p : κ → α → Bool) (k : κ) :
    (m.filter p).get? k = (m.get? k).filter (p k) :=
  find_filter m.sorted k

theorem get?_erase (m : OrderedMap κ α) (k j : κ) :
    (m.erase k).get? j = if k = j then none else m.get? j := by
  rw [erase, get?_filter]
  by_cases h : k = j
  · subst h
    cases m.get? k <;> simp [Option.filter]
  · have h' : ¬ j = k := fun e => h e.symm
    cases m.get? j <;> simp [Option.filter, h, h']

theorem ext {m n : OrderedMap κ α} (h : ∀ k, m.get? k = n.get? k) : m = n := by
  have : m.toList = n.toList := by
    have hm := m.sorted
    have hn := n.sorted
    have hmem : ∀ e, e ∈ m.toList ↔ e ∈ n.toList := by
      rintro ⟨k, a⟩
      rw [mem_toList, mem_toList, h k]
    generalize m.toList = l at *
    generalize n.toList = l' at *
    clear h m n
    induction l generalizing l' with
    | nil =>
      cases l' with
      | nil => rfl
      | cons e l' => exact absurd ((hmem e).2 (by simp)) (by simp)
    | cons e l ih =>
      cases l' with
      | nil => exact absurd ((hmem e).1 (by simp)) (by simp)
      | cons e' l' =>
        rw [List.pairwise_cons] at hm hn
        have he : e = e' := by
          rcases List.mem_cons.1 ((hmem e).1 (by simp)) with h | h
          · exact h
          · rcases List.mem_cons.1 ((hmem e').2 (by simp)) with h' | h'
            · exact h'.symm
            · exact absurd (StrictlyOrdered.trans (hm.1 _ h') (hn.1 _ h)) (StrictlyOrdered.irrefl _)
        subst he
        congr 1
        refine ih hm.2 l' hn.2 fun x => ?_
        have hx := hmem x
        simp only [List.mem_cons] at hx
        constructor
        · intro hxl
          rcases hx.1 (Or.inr hxl) with rfl | hxm
          · exact absurd (hm.1 _ hxl) (StrictlyOrdered.irrefl _)
          · exact hxm
        · intro hxm
          rcases hx.2 (Or.inr hxm) with rfl | hxl
          · exact absurd (hn.1 _ hxm) (StrictlyOrdered.irrefl _)
          · exact hxl
  cases m; cases n; cases this; rfl

variable [DecidableLT κ]

/-- Put a value at a key. -/
def insert (m : OrderedMap κ α) (k : κ) (a : α) : OrderedMap κ α :=
  ⟨insertSorted k a m.toList, insertSorted_sorted m.sorted⟩

theorem get?_insert (m : OrderedMap κ α) (k j : κ) (a : α) :
    (m.insert k a).get? j = if k = j then some a else m.get? j :=
  find_insertSorted k j a m.toList

end OrderedMap
end RuleSets
