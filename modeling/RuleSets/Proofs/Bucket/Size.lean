import Mathlib.Algebra.GroupWithZero.Nat
import RuleSets.Bucket
import RuleSets.Proofs.OrderedSet

/-!
# Sizes of buckets

Every rule of a bucket is of one kind, so the size of a bucket is the sum of its counts
(`size_eq_sum`), of all kinds or of those that have a value.
-/

namespace RuleSets.Bucket

variable {b : Bucket} {k : Kind}

theorem values_sorted (b : Bucket) (k : Kind) : (b.values k).Pairwise (· < ·) := by
  have hsorted : (b.toList.filter (·.kind == k)).Pairwise (· < ·) := b.sorted.filter _
  refine List.pairwise_map.2 (hsorted.imp_of_mem fun {r s} hr hs hlt => ?_)
  have hkr : r.kind = k := beq_iff_eq.1 (List.mem_filter.1 hr).2
  have hks : s.kind = k := beq_iff_eq.1 (List.mem_filter.1 hs).2
  rcases Rule.lt_def.1 hlt with hindex | ⟨-, hvalue⟩
  · rw [hkr, hks] at hindex
    exact absurd hindex (Nat.lt_irrefl _)
  · exact hvalue

theorem count_eq_zero : b.count k = 0 ↔ b.values k = [] := List.length_eq_zero_iff

theorem mem_kinds : k ∈ b.kinds ↔ b.values k ≠ [] := by
  rw [kinds, List.mem_filter, decide_eq_true_eq, ne_eq, count_eq_zero]
  exact and_iff_right (Kind.mem_all k)

/-! ### Sums -/

theorem length_eq_sum (rules : List Rule) :
    rules.length = (Kind.all.map fun k => (rules.filter (·.kind == k)).length).sum := by
  induction rules with
  | nil => rfl
  | cons r rules ih =>
    obtain ⟨kind, value⟩ := r
    rw [List.length_cons, ih]
    cases kind <;> simp [Kind.all, List.filter_cons] <;> omega

theorem size_eq_sum (b : Bucket) : b.size = (Kind.all.map b.count).sum := by
  have hcount : b.count = fun k => (b.toList.filter (·.kind == k)).length := by
    funext k
    rw [count, values, List.length_map]
  rw [hcount]
  exact length_eq_sum b.toList

theorem sum_filter_ne_zero {α : Type} (f : α → Nat) (l : List α) :
    ((l.filter fun a => f a ≠ 0).map f).sum = (l.map f).sum := by
  induction l with
  | nil => rfl
  | cons a l ih =>
    by_cases ha : f a = 0
    · simp [ha, ← ih]
    · simp [ha, ← ih]

theorem size_eq_sum_counts (b : Bucket) : b.size = (b.counts.map (·.2)).sum := by
  have hmap : b.counts.map (·.2) = (Kind.all.filter fun k => b.count k ≠ 0).map b.count := by
    rw [counts, kinds, List.map_map]
    rfl
  rw [hmap, sum_filter_ne_zero, ← size_eq_sum]

/-! ### Empty buckets -/

theorem isEmpty_iff_size : b.isEmpty = true ↔ b.size = 0 := by
  rw [isEmpty, List.isEmpty_iff, ← List.length_eq_zero_iff]
  rfl

theorem isEmpty_iff_kinds : b.isEmpty = true ↔ b.kinds = [] := by
  rw [isEmpty, List.isEmpty_iff]
  constructor
  · intro h
    refine List.filter_eq_nil_iff.2 fun k _ => ?_
    simp [count, values, h]
  · intro h
    refine List.eq_nil_iff_forall_not_mem.2 fun r hr => ?_
    have hvalue : r.value ∈ b.values r.kind := mem_values.2 hr
    have hkind : r.kind ∈ b.kinds := mem_kinds.2 (List.ne_nil_of_mem hvalue)
    rw [h] at hkind
    cases hkind

theorem hasAny_iff {ks : List Kind} : b.hasAny ks = true ↔ ∃ k ∈ ks, 0 < b.count k := by
  simp only [hasAny, List.any_eq_true, decide_eq_true_eq, Nat.pos_iff_ne_zero]

end RuleSets.Bucket
