import Mathlib.Data.List.Nodup
import RuleSets.OrderedSet

/-!
# Laws of ordered sets

A set lists no member twice, so inserting adds one to its size just when the member is new
(`size_insert`).  Union is commutative, associative and idempotent, since a set is determined by its
members.
-/

namespace RuleSets

variable {α : Type} [LT α] [StrictlyOrdered α]

theorem StrictlyOrdered.nodup {l : List α} (h : l.Pairwise (· < ·)) : l.Nodup := by
  refine List.Pairwise.imp ?_ h
  rintro a _ hlt rfl
  exact StrictlyOrdered.irrefl a hlt

namespace OrderedSet

variable [DecidableLT α] [DecidableEq α] {a : α}

theorem insert_of_mem {s : OrderedSet α} (h : a ∈ s) : s.insert a = s := by
  refine ext fun x => ?_
  rw [mem_insert]
  constructor
  · rintro (rfl | hx)
    · exact h
    · exact hx
  · exact .inr

theorem size_insert {s : OrderedSet α} (h : a ∉ s) : (s.insert a).size = s.size + 1 := by
  have hnodup : (a :: s.toList).Nodup := List.nodup_cons.2 ⟨h, StrictlyOrdered.nodup s.sorted⟩
  have hperm : (s.insert a).toList.Perm (a :: s.toList) := by
    refine (List.perm_ext_iff_of_nodup (StrictlyOrdered.nodup (s.insert a).sorted) hnodup).2 ?_
    intro x
    rw [List.mem_cons]
    exact mem_insertSorted
  exact hperm.length_eq

theorem union_comm (s t : OrderedSet α) : s.union t = t.union s := by
  refine ext fun x => ?_
  rw [mem_union, mem_union, or_comm]

theorem union_assoc (s t u : OrderedSet α) : (s.union t).union u = s.union (t.union u) := by
  refine ext fun x => ?_
  simp only [mem_union, or_assoc]

theorem union_self (s : OrderedSet α) : s.union s = s := by
  refine ext fun x => ?_
  rw [mem_union, or_self]

end OrderedSet
end RuleSets
