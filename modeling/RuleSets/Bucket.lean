import RuleSets.Rule

/-!
# Buckets

A bucket is a finite set of rules: no rule is held twice, and a kind is present exactly while it has
a value.  A bucket is determined by its members, so the order in which rules were inserted or
buckets merged leaves no trace.
-/

namespace RuleSets

/-- A set of rules, in the order of `Rule`. -/
abbrev Bucket := OrderedSet Rule

namespace Bucket

/-- The values of a kind, in increasing order. -/
def values (b : Bucket) (k : Kind) : List Text :=
  (b.toList.filter (·.kind == k)).map (·.value)

/-- The number of values of a kind. -/
def count (b : Bucket) (k : Kind) : Nat := (b.values k).length

/-- The kinds that have a value, in the canonical order. -/
def kinds (b : Bucket) : List Kind := Kind.all.filter fun k => b.count k ≠ 0

/-- The number of values of every kind that has one. -/
def counts (b : Bucket) : List (Kind × Nat) := b.kinds.map fun k => (k, b.count k)

/-- Whether the bucket holds no rule. -/
def isEmpty (b : Bucket) : Bool := b.toList.isEmpty

/-- Whether one of the given kinds has a value. -/
def hasAny (b : Bucket) (ks : List Kind) : Bool := ks.any fun k => b.count k ≠ 0

/-- Insert the canonical rule for a raw value, if there is one. -/
def insertRaw (b : Bucket) (k : Kind) (raw : Text) : Bucket :=
  match Rule.parse? k raw with
  | some r => b.insert r
  | none => b

/-- Whether inserting a raw value would add a rule. -/
def wouldAdd (b : Bucket) (k : Kind) (raw : Text) : Bool :=
  match Rule.parse? k raw with
  | some r => decide (r ∉ b)
  | none => false

/-- Every rule of either bucket. -/
def merge (a b : Bucket) : Bucket := OrderedSet.union a b

theorem mem_values {b : Bucket} {k : Kind} {v : Text} : v ∈ b.values k ↔ (⟨k, v⟩ : Rule) ∈ b := by
  simp only [values, List.mem_map, List.mem_filter, beq_iff_eq, OrderedSet.mem_def]
  constructor
  · rintro ⟨⟨k', v'⟩, ⟨h, rfl⟩, rfl⟩
    exact h
  · intro h
    exact ⟨⟨k, v⟩, ⟨h, rfl⟩, rfl⟩

theorem mem_insertRaw {b : Bucket} {k : Kind} {raw : Text} {r : Rule} :
    r ∈ b.insertRaw k raw ↔ Rule.parse? k raw = some r ∨ r ∈ b := by
  unfold insertRaw
  split
  · rename_i s h
    simp [h, eq_comm]
  · rename_i h
    simp [h]

theorem mem_merge {a b : Bucket} {r : Rule} : r ∈ a.merge b ↔ r ∈ a ∨ r ∈ b := OrderedSet.mem_union

end Bucket
end RuleSets
