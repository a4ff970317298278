import RuleSets.Proofs.Bucket.Size

/-!
# Buckets as tables

A table files sets of values by kind, and a kind that is there with no value is not the same as one
that is absent.  A table that is filled like a bucket files the bucket: a kind is there just while
the bucket has a value of it, and the values filed are those of the bucket (`Files.insert`,
`Files.merge`).
-/

namespace RuleSets

/-- A set of values for some of the kinds. -/
abbrev Table := Kind → Option (OrderedSet Text)

namespace Table

variable {t u : Table} {b c : Bucket} {k : Kind}

/-- Change the set of a kind.  A kind that is absent is there with an empty set before. -/
def update (t : Table) (k : Kind) (f : OrderedSet Text → OrderedSet Text) : Table := fun j =>
  if j = k then some (f ((t k).getD ∅)) else t j

/-- File a rule. -/
def insert (t : Table) (r : Rule) : Table := t.update r.kind (OrderedSet.insert r.value)

/-- Whether filing a rule adds a value to the set of its kind. -/
def isNew (t : Table) (r : Rule) : Bool := decide (r.value ∉ (t r.kind).getD ∅)

/-- Unite the set of a kind with that of another table, if it is there. -/
def mergeKind (u t : Table) (k : Kind) : Table :=
  match u k with
  | some vs => t.update k fun ws => ws.union vs
  | none => t

/-- Unite the sets of two tables, kind by kind. -/
def merge (t u : Table) : Table := Kind.all.foldl (mergeKind u) t

/-- Whether a table files a bucket. -/
structure Files (t : Table) (b : Bucket) : Prop where
  ne_empty : ∀ k vs, t k = some vs → vs.toList ≠ []
  mem_iff : ∀ r, r ∈ b ↔ ∃ vs, t r.kind = some vs ∧ r.value ∈ vs

theorem Files.empty : Files (fun _ => none) ∅ where
  ne_empty := nofun
  mem_iff r := iff_of_false (OrderedSet.not_mem_empty r) nofun

/-! ### Insertion -/

theorem insert_self (t : Table) (r : Rule) :
    t.insert r r.kind = some (((t r.kind).getD ∅).insert r.value) := if_pos rfl

theorem insert_of_ne {r : Rule} (hk : k ≠ r.kind) : t.insert r k = t k := if_neg hk

theorem mem_getD {vs : Option (OrderedSet Text)} {v : Text} :
    v ∈ vs.getD ∅ ↔ ∃ ws, vs = some ws ∧ v ∈ ws := by
  cases vs with
  | none => simp
  | some ws => simp

theorem Files.insert (h : Files t b) (r : Rule) : Files (t.insert r) (OrderedSet.insert r b) where
  ne_empty k vs hvs := by
    by_cases hk : k = r.kind
    · subst hk
      rw [insert_self, Option.some.injEq] at hvs
      subst hvs
      exact List.ne_nil_of_mem (OrderedSet.mem_insert.2 (.inl rfl))
    · rw [insert_of_ne hk] at hvs
      exact h.ne_empty k vs hvs
  mem_iff s := by
    rw [OrderedSet.mem_insert, h.mem_iff]
    by_cases hk : s.kind = r.kind
    · have hs : s = r ↔ s.value = r.value := by
        cases s
        cases r
        simp_all
      rw [hk, insert_self, hs]
      simp only [Option.some.injEq, exists_eq_left', OrderedSet.mem_insert, mem_getD]
    · rw [insert_of_ne hk]
      exact or_iff_right fun he => hk (congrArg Rule.kind he)

/-! ### Merging -/

/-- What the sets of a kind in two tables are united to. -/
def unite (vs : Option (OrderedSet Text)) : Option (OrderedSet Text) → Option (OrderedSet Text)
  | some ws => some ((vs.getD ∅).union ws)
  | none => vs

theorem mergeKind_self (t u : Table) (k : Kind) : mergeKind u t k k = unite (t k) (u k) := by
  unfold mergeKind
  cases u k with
  | none => rfl
  | some vs => exact if_pos rfl

theorem mergeKind_of_ne {j : Kind} (hj : j ≠ k) : mergeKind u t k j = t j := by
  unfold mergeKind
  cases u k with
  | none => rfl
  | some vs => exact if_neg hj

theorem foldl_mergeKind_of_not_mem {ks : List Kind} (hk : k ∉ ks) :
    ks.foldl (mergeKind u) t k = t k := by
  induction ks generalizing t with
  | nil => rfl
  | cons j ks ih =>
    obtain ⟨hj, hks⟩ := not_or.1 fun h => hk (List.mem_cons.2 h)
    rw [List.foldl_cons, ih hks, mergeKind_of_ne hj]

theorem foldl_mergeKind {ks : List Kind} (hks : ks.Nodup) (hk : k ∈ ks) :
    ks.foldl (mergeKind u) t k = unite (t k) (u k) := by
  induction ks generalizing t with
  | nil => cases hk
  | cons j ks ih =>
    obtain ⟨hj, hks⟩ := List.nodup_cons.1 hks
    rw [List.foldl_cons]
    by_cases he : k = j
    · subst he
      rw [foldl_mergeKind_of_not_mem hj, mergeKind_self]
    · have hmem := (List.mem_cons.1 hk).resolve_left he
      rw [ih hks hmem, mergeKind_of_ne he]

theorem merge_apply (t u : Table) (k : Kind) : t.merge u k = unite (t k) (u k) :=
  foldl_mergeKind (by decide) (Kind.mem_all k)

theorem Files.merge (ht : Files t b) (hu : Files u c) : Files (t.merge u) (b.merge c) where
  ne_empty k vs hvs := by
    rw [merge_apply] at hvs
    cases huk : u k with
    | none =>
      rw [huk] at hvs
      exact ht.ne_empty k vs hvs
    | some ws =>
      rw [huk] at hvs
      obtain rfl := Option.some.inj hvs
      -- A set that is united with one that has a member has it too.
      obtain ⟨w, hw⟩ := List.exists_mem_of_ne_nil _ (hu.ne_empty k ws huk)
      exact List.ne_nil_of_mem (OrderedSet.mem_union.2 (.inr hw))
  mem_iff r := by
    rw [Bucket.mem_merge, ht.mem_iff, hu.mem_iff, merge_apply]
    cases u r.kind with
    | none => simp [unite]
    | some ws => simp [unite, mem_getD]

/-! ### The filed bucket -/

theorem Files.values (h : Files t b) {vs : OrderedSet Text} (hvs : t k = some vs) :
    vs.toList = b.values k := by
  refine OrderedSet.eq_of_sorted_of_mem_iff vs.sorted (b.values_sorted k) fun v => ?_
  rw [Bucket.mem_values, h.mem_iff]
  constructor
  · exact fun hv => ⟨vs, hvs, hv⟩
  · rintro ⟨ws, hws, hv⟩
    rw [hvs] at hws
    cases hws
    exact hv

/-- A kind is absent just while the bucket has no value of it. -/
theorem Files.eq_none_iff (h : Files t b) : t k = none ↔ b.count k = 0 := by
  rw [Bucket.count_eq_zero]
  constructor
  · intro hk
    refine List.eq_nil_iff_forall_not_mem.2 fun v hv => ?_
    obtain ⟨vs, hvs, -⟩ := (h.mem_iff _).1 (Bucket.mem_values.1 hv)
    rw [hk] at hvs
    cases hvs
  · intro hk
    cases hvs : t k with
    | none => rfl
    | some vs => exact absurd ((h.values hvs).trans hk) (h.ne_empty k vs hvs)

/-- A bucket is filed in one way only. -/
theorem Files.unique (ht : Files t b) (hu : Files u b) : t = u := by
  funext k
  cases hvs : t k with
  | none => rw [hu.eq_none_iff.2 (ht.eq_none_iff.1 hvs)]
  | some vs =>
    cases hws : u k with
    | none =>
      rw [ht.eq_none_iff.2 (hu.eq_none_iff.1 hws)] at hvs
      cases hvs
    | some ws =>
      have hlist : vs.toList = ws.toList := (ht.values hvs).trans (hu.values hws).symm
      have hset : vs = ws := OrderedSet.ext fun v => by
        rw [OrderedSet.mem_def, OrderedSet.mem_def, hlist]
      rw [hset]

/-! ### Queries -/

/-- Whether a rule is filed. -/
def contains (t : Table) (r : Rule) : Bool :=
  match t r.kind with
  | some vs => decide (r.value ∈ vs)
  | none => false

/-- The number of values that are filed under a kind. -/
def count (t : Table) (k : Kind) : Nat :=
  match t k with
  | some vs => vs.size
  | none => 0

/-- The kinds that are there. -/
def kinds (t : Table) : List Kind := Kind.all.filter fun k => (t k).isSome

/-- The number of values that are filed under the kinds that are there. -/
def size (t : Table) : Nat := (t.kinds.map t.count).sum

/-- Whether no kind is there. -/
def isEmpty (t : Table) : Bool := t.kinds.isEmpty

/-- Whether one of the given kinds is there. -/
def hasAny (t : Table) (ks : List Kind) : Bool := ks.any fun k => (t k).isSome

/-- Whether a table answers all queries as a bucket does. -/
structure Answers (t : Table) (b : Bucket) : Prop where
  contains : ∀ r, t.contains r = true ↔ r ∈ b
  isNew : ∀ r, t.isNew r = true ↔ r ∉ b
  kinds : t.kinds = b.kinds
  count : t.count = b.count
  size : t.size = b.size
  isEmpty : t.isEmpty = b.isEmpty
  hasAny : ∀ ks, t.hasAny ks = b.hasAny ks

theorem Files.isSome_iff (h : Files t b) : (t k).isSome = true ↔ b.count k ≠ 0 := by
  rw [← Option.ne_none_iff_isSome, ne_eq, h.eq_none_iff]

theorem Files.count_eq (h : Files t b) : t.count k = b.count k := by
  rw [count]
  cases hk : t k with
  | none => exact (h.eq_none_iff.1 hk).symm
  | some vs => exact congrArg List.length (h.values hk)

theorem Files.kinds_eq (h : Files t b) : t.kinds = b.kinds := by
  refine List.filter_congr fun k _ => ?_
  rw [Bool.eq_iff_iff, h.isSome_iff, decide_eq_true_eq]

theorem Files.answers (h : Files t b) : Answers t b where
  contains r := by
    rw [h.mem_iff, Table.contains]
    cases t r.kind with
    | none => simp
    | some vs => simp
  isNew r := by rw [Table.isNew, decide_eq_true_eq, mem_getD, h.mem_iff]
  kinds := h.kinds_eq
  count := funext fun _ => h.count_eq
  size := by
    have hcount : t.count = b.count := funext fun _ => h.count_eq
    rw [Table.size, h.kinds_eq, hcount, Bucket.size_eq_sum_counts, Bucket.counts, List.map_map]
    rfl
  isEmpty := by
    rw [Bool.eq_iff_iff, Table.isEmpty, h.kinds_eq, List.isEmpty_iff, Bucket.isEmpty_iff_kinds]
  hasAny ks := by
    refine List.any_congr rfl fun k => ?_
    rw [Bool.eq_iff_iff, h.isSome_iff, decide_eq_true_eq]

end Table
end RuleSets
