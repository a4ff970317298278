import RuleSets.Text.Basic

/-!
# Ordered sets

A finite set kept as a strictly increasing list, so that a set has one representation and equality
of sets is equality of lists.  The main statements are `mem_insert`, `mem_union`, `mem_ofList` and
`ext`: everything else about a set follows from what its members are.
-/

namespace RuleSets

/-- A strict order in which any two elements are comparable. -/
class StrictlyOrdered (α : Type) [LT α] : Prop where
  irrefl : ∀ a : α, ¬ a < a
  trans : ∀ {a b c : α}, a < b → b < c → a < c
  compare : ∀ a b : α, a < b ∨ a = b ∨ b < a

instance : StrictlyOrdered Text where
  irrefl := List.lt_irrefl
  trans := List.lt_trans
  compare a b := Std.lt_trichotomy a b

instance : StrictlyOrdered (List Text) where
  irrefl := List.lt_irrefl
  trans := List.lt_trans
  compare a b := Std.lt_trichotomy a b

/-- A finite set, listed in increasing order. -/
structure OrderedSet (α : Type) [LT α] where
  toList : List α
  sorted : toList.Pairwise (· < ·)

namespace OrderedSet

section Insertion
variable {α : Type} [LT α] [DecidableLT α] [DecidableEq α]

/-- Put `a` at its place in an increasing list, unless it is there. -/
def insertSorted (a : α) : List α → List α
  | [] => [a]
  | b :: l => if a < b then a :: b :: l else if a = b then b :: l else b :: insertSorted a l

theorem mem_insertSorted {a x : α} {l : List α} : x ∈ insertSorted a l ↔ x = a ∨ x ∈ l := by
  induction l with
  | nil => simp [insertSorted]
  | cons b l ih =>
    unfold insertSorted
    split
    · simp
    · split
      · rename_i h; subst h; simp
      · simp only [List.mem_cons, ih]
        constructor <;> (rintro (h | h | h) <;> simp [h])

theorem insertSorted_sorted [StrictlyOrdered α] {a : α} {l : List α} (h : l.Pairwise (· < ·)) :
    (insertSorted a l).Pairwise (· < ·) := by
  induction l with
  | nil => simp [insertSorted]
  | cons b l ih =>
    rw [List.pairwise_cons] at h
    unfold insertSorted
    split
    · rename_i hab
      refine List.pairwise_cons.2 ⟨?_, List.pairwise_cons.2 h⟩
      intro x hx
      rcases List.mem_cons.1 hx with rfl | hx
      · exact hab
      · exact StrictlyOrdered.trans hab (h.1 x hx)
    · split
      · exact List.pairwise_cons.2 h
      · rename_i hab hne
        refine List.pairwise_cons.2 ⟨?_, ih h.2⟩
        intro x hx
        rcases mem_insertSorted.1 hx with rfl | hx
        · rcases StrictlyOrdered.compare x b with hc | hc | hc
          · exact absurd hc hab
          · exact absurd hc hne
          · exact hc
        · exact h.1 x hx

/-- Put `a`, and then what `rest` makes of what is left, in front of or between the elements of
a list. -/
def mergeHead (a : α) (rest : List α → List α) : List α → List α
  | [] => a :: rest []
  | b :: m =>
    if a < b then a :: rest (b :: m)
    else if a = b then a :: rest m
    else b :: mergeHead a rest m

/-- The elements of two increasing lists as one. -/
def mergeSorted : List α → List α → List α
  | [] => id
  | a :: l => mergeHead a (mergeSorted l)

theorem mem_mergeSorted {x : α} {l m : List α} : x ∈ mergeSorted l m ↔ x ∈ l ∨ x ∈ m := by
  induction l generalizing m with
  | nil => simp [mergeSorted]
  | cons a l ih =>
    rw [mergeSorted]
    induction m with
    | nil => simp [mergeHead, ih]
    | cons b m ihm =>
      unfold mergeHead
      split
      · simp [ih, or_assoc]
      · split
        · rename_i h
          subst h
          simp only [List.mem_cons, ih]
          grind
        · simp only [List.mem_cons, ihm]
          grind

theorem mergeSorted_sorted [StrictlyOrdered α] {l m : List α} (hl : l.Pairwise (· < ·))
    (hm : m.Pairwise (· < ·)) : (mergeSorted l m).Pairwise (· < ·) := by
  induction l generalizing m with
  | nil => exact hm
  | cons a l ih =>
    rw [List.pairwise_cons] at hl
    rw [mergeSorted]
    induction m with
    | nil =>
      refine List.pairwise_cons.2 ⟨fun x hx => ?_, ih hl.2 hm⟩
      exact hl.1 x (by simpa [mem_mergeSorted] using hx)
    | cons b m ihm =>
      have hb := List.pairwise_cons.1 hm
      unfold mergeHead
      split
      · rename_i hab
        refine List.pairwise_cons.2 ⟨fun x hx => ?_, ih hl.2 hm⟩
        rcases mem_mergeSorted.1 hx with hx | hx
        · exact hl.1 x hx
        · rcases List.mem_cons.1 hx with rfl | hx
          · exact hab
          · exact StrictlyOrdered.trans hab (hb.1 x hx)
      · split
        · rename_i h
          subst h
          refine List.pairwise_cons.2 ⟨fun x hx => ?_, ih hl.2 hb.2⟩
          rcases mem_mergeSorted.1 hx with hx | hx
          · exact hl.1 x hx
          · exact hb.1 x hx
        · rename_i hab hne
          have below : b < a := by
            rcases StrictlyOrdered.compare a b with hc | hc | hc
            · exact absurd hc hab
            · exact absurd hc hne
            · exact hc
          refine List.pairwise_cons.2 ⟨fun x hx => ?_, ihm hb.2⟩
          have hx : x ∈ mergeSorted (a :: l) m := hx
          rcases mem_mergeSorted.1 hx with hx | hx
          · rcases List.mem_cons.1 hx with rfl | hx
            · exact below
            · exact StrictlyOrdered.trans below (hl.1 x hx)
          · exact hb.1 x hx

end Insertion

variable {α : Type} [LT α]

instance : Membership α (OrderedSet α) := ⟨fun s a => a ∈ s.toList⟩

theorem mem_def {a : α} {s : OrderedSet α} : a ∈ s ↔ a ∈ s.toList := Iff.rfl

instance [DecidableEq α] (a : α) (s : OrderedSet α) : Decidable (a ∈ s) :=
  inferInstanceAs (Decidable (a ∈ s.toList))

instance [DecidableEq α] : DecidableEq (OrderedSet α) := fun s t =>
  decidable_of_iff (s.toList = t.toList)
    ⟨fun h => by cases s; cases t; cases h; rfl, fun h => h ▸ rfl⟩

/-- The set without members. -/
def empty : OrderedSet α := ⟨[], List.Pairwise.nil⟩

instance : EmptyCollection (OrderedSet α) := ⟨empty⟩
instance : Inhabited (OrderedSet α) := ⟨∅⟩

@[simp] theorem not_mem_empty (a : α) : a ∉ (∅ : OrderedSet α) := List.not_mem_nil

/-- The number of members. -/
def size (s : OrderedSet α) : Nat := s.toList.length

/-- The members that satisfy `p`. -/
def filter (p : α → Bool) (s : OrderedSet α) : OrderedSet α :=
  ⟨s.toList.filter p, s.sorted.sublist List.filter_sublist⟩

@[simp] theorem mem_filter {p : α → Bool} {s : OrderedSet α} {a : α} :
    a ∈ s.filter p ↔ a ∈ s ∧ p a = true := List.mem_filter

/-- Two increasing lists with the same members are equal. -/
theorem eq_of_sorted_of_mem_iff [StrictlyOrdered α] {l m : List α} (hl : l.Pairwise (· < ·))
    (hm : m.Pairwise (· < ·)) (h : ∀ a, a ∈ l ↔ a ∈ m) : l = m := by
  induction l generalizing m with
  | nil =>
    cases m with
    | nil => rfl
    | cons b m => exact absurd ((h b).2 (by simp)) (by simp)
  | cons a l ih =>
    cases m with
    | nil => exact absurd ((h a).1 (by simp)) (by simp)
    | cons b m =>
      rw [List.pairwise_cons] at hl hm
      have hab : a = b := by
        rcases List.mem_cons.1 ((h a).1 (by simp)) with e | ha
        · exact e
        · rcases List.mem_cons.1 ((h b).2 (by simp)) with e | hb
          · exact e.symm
          · exact absurd (StrictlyOrdered.trans (hm.1 a ha) (hl.1 b hb)) (StrictlyOrdered.irrefl b)
      subst hab
      congr 1
      refine ih hl.2 hm.2 fun x => ?_
      have hx := h x
      simp only [List.mem_cons] at hx
      constructor
      · intro hxl
        rcases hx.1 (Or.inr hxl) with rfl | hxm
        · exact absurd (hl.1 x hxl) (StrictlyOrdered.irrefl x)
        · exact hxm
      · intro hxm
        rcases hx.2 (Or.inr hxm) with rfl | hxl
        · exact absurd (hm.1 x hxm) (StrictlyOrdered.irrefl x)
        · exact hxl

theorem ext [StrictlyOrdered α] {s t : OrderedSet α} (h : ∀ a, a ∈ s ↔ a ∈ t) : s = t := by
  have := eq_of_sorted_of_mem_iff s.sorted t.sorted h
  cases s; cases t; cases this; rfl

variable [DecidableLT α] [DecidableEq α] [StrictlyOrdered α]

/-- Add a member. -/
def insert (a : α) (s : OrderedSet α) : OrderedSet α :=
  ⟨insertSorted a s.toList, insertSorted_sorted s.sorted⟩

/-- The members of either set. -/
def union (s t : OrderedSet α) : OrderedSet α :=
  ⟨mergeSorted s.toList t.toList, mergeSorted_sorted s.sorted t.sorted⟩

@[simp] theorem mem_insert {a x : α} {s : OrderedSet α} : x ∈ s.insert a ↔ x = a ∨ x ∈ s :=
  mem_insertSorted

@[simp] theorem mem_union {s t : OrderedSet α} {x : α} : x ∈ s.union t ↔ x ∈ s ∨ x ∈ t :=
  mem_mergeSorted

/-! ### The set of a list

Elements are gathered in sets whose sizes double from one to the next, as the digits of a binary
number do, so that a long list takes few passes. -/

/-- Add a set to gathered sets: it is united with those before the first free place. -/
def carry (s : OrderedSet α) : List (Option (OrderedSet α)) → List (Option (OrderedSet α))
  | [] => [some s]
  | none :: rest => some s :: rest
  | some t :: rest => none :: carry (t.union s) rest

/-- The members of all gathered sets. -/
def unionAll : List (Option (OrderedSet α)) → OrderedSet α
  | [] => ∅
  | none :: rest => unionAll rest
  | some s :: rest => s.union (unionAll rest)

/-- The set of one member. -/
def single (a : α) : OrderedSet α := ⟨[a], List.pairwise_singleton _ a⟩

/-- The set of the elements of a list. -/
def ofList (l : List α) : OrderedSet α :=
  unionAll (l.foldl (fun gathered a => carry (single a) gathered) [])

theorem mem_unionAll_carry {s : OrderedSet α} {gathered : List (Option (OrderedSet α))} {x : α} :
    x ∈ unionAll (carry s gathered) ↔ x ∈ s ∨ x ∈ unionAll gathered := by
  induction gathered generalizing s with
  | nil => simp [carry, unionAll]
  | cons t rest ih =>
    cases t with
    | none => simp [carry, unionAll]
    | some t => simp only [carry, unionAll, ih, mem_union, or_assoc, or_left_comm]

theorem mem_foldl_carry {l : List α} {gathered : List (Option (OrderedSet α))} {x : α} :
    x ∈ unionAll (l.foldl (fun gathered a => carry (single a) gathered) gathered) ↔
      x ∈ l ∨ x ∈ unionAll gathered := by
  induction l generalizing gathered with
  | nil => simp
  | cons a l ih =>
    have : x ∈ single a ↔ x = a := List.mem_singleton
    simp only [List.foldl_cons, ih, mem_unionAll_carry, List.mem_cons, this, or_assoc]
    exact or_left_comm

@[simp] theorem mem_ofList {l : List α} {x : α} : x ∈ ofList l ↔ x ∈ l := by
  simp [ofList, mem_foldl_carry, unionAll]

end OrderedSet
end RuleSets
