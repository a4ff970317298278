import RuleSets.Proofs.Bucket.Table

/-!
# Histories of buckets

A bucket is built by inserting raw values and rules and by merging buckets that are built alike.
What was accepted along such a history is all that is left of it: a rule is in the bucket just when
it was accepted, and the table that is filled in step holds no kind without a value
(`History.files`), so that asking which kinds are there and counting values come to the same
(`history_keeps_accepted_rules`).
-/

namespace RuleSets.Bucket

variable {r : Rule}

/-- How a bucket is built. -/
inductive History where
  | empty
  | insertRaw (h : History) (k : Kind) (raw : Text)
  | insert (h : History) (r : Rule)
  | merge (h other : History)

namespace History

/-- The bucket that is built. -/
def bucket : History → Bucket
  | empty => ∅
  | insertRaw h k raw => h.bucket.insertRaw k raw
  | insert h r => h.bucket.insert r
  | merge h other => h.bucket.merge other.bucket

/-- The table that is filled in step with the bucket. -/
def table : History → Table
  | empty => fun _ => none
  | insertRaw h k raw =>
    match Rule.parse? k raw with
    | some r => h.table.insert r
    | none => h.table
  | insert h r => h.table.insert r
  | merge h other => h.table.merge other.table

/-- The rules that are accepted, in the order of the history. -/
def accepted : History → List Rule
  | empty => []
  | insertRaw h k raw => h.accepted ++ (Rule.parse? k raw).toList
  | insert h r => h.accepted ++ [r]
  | merge h other => h.accepted ++ other.accepted

theorem mem_bucket (h : History) : r ∈ h.bucket ↔ r ∈ h.accepted := by
  induction h with
  | empty => exact iff_of_false (OrderedSet.not_mem_empty r) List.not_mem_nil
  | insertRaw h k raw ih =>
    rw [bucket, mem_insertRaw, accepted, List.mem_append, Option.mem_toList, ih, or_comm]
  | insert h s ih =>
    rw [bucket, OrderedSet.mem_insert, accepted, List.mem_append, List.mem_singleton, ih, or_comm]
  | merge h other ih ihother => rw [bucket, mem_merge, accepted, List.mem_append, ih, ihother]

theorem files (h : History) : h.table.Files h.bucket := by
  induction h with
  | empty => exact .empty
  | insertRaw h k raw ih =>
    rw [table, bucket, Bucket.insertRaw]
    cases Rule.parse? k raw with
    | none => exact ih
    | some r => exact ih.insert r
  | insert h r ih => exact ih.insert r
  | merge h other ih ihother => exact ih.merge ihother

/-- Histories that accept the same rules build the same bucket. -/
theorem bucket_congr {h h' : History} (heq : ∀ r, r ∈ h.accepted ↔ r ∈ h'.accepted) :
    h.bucket = h'.bucket := by
  refine OrderedSet.ext fun r => ?_
  rw [mem_bucket, mem_bucket, heq]

/-- Histories that build the same bucket fill the same table. -/
theorem table_congr {h h' : History} (heq : h.bucket = h'.bucket) : h.table = h'.table :=
  h.files.unique (heq ▸ h'.files)

end History

/-! ### Insertion -/

theorem wouldAdd_iff {b : Bucket} {k : Kind} {raw : Text} :
    b.wouldAdd k raw = true ↔ ∃ r, Rule.parse? k raw = some r ∧ r ∉ b := by
  unfold wouldAdd
  cases Rule.parse? k raw with
  | none => simp
  | some r => simp

theorem size_insert (b : Bucket) (r : Rule) :
    (b.insert r).size = b.size + if r ∈ b then 0 else 1 := by
  by_cases hr : r ∈ b
  · rw [OrderedSet.insert_of_mem hr, if_pos hr, Nat.add_zero]
  · rw [OrderedSet.size_insert hr, if_neg hr]

theorem size_insertRaw (b : Bucket) (k : Kind) (raw : Text) :
    (b.insertRaw k raw).size = b.size + if b.wouldAdd k raw then 1 else 0 := by
  unfold insertRaw wouldAdd
  cases Rule.parse? k raw with
  | none => rfl
  | some r => simp [size_insert]

/-- However a bucket is built, it holds the rules that were accepted, and nothing else tells it from
another one.  No kind is there without a value, so the table answers as the bucket does.  Inserting
a rule or a raw value adds one to the size just when the rule was absent; the size is the sum of the
counts, and it is zero just when no kind is there.  Merging is commutative, associative and
idempotent. -/
theorem history_keeps_accepted_rules :
    (∀ h : History, (∀ r, r ∈ h.bucket ↔ r ∈ h.accepted) ∧ h.table.Answers h.bucket ∧
      ∀ k vs, h.table k = some vs → vs.toList ≠ [] ∧ vs.toList = h.bucket.values k) ∧
    (∀ h h' : History, (∀ r, r ∈ h.accepted ↔ r ∈ h'.accepted) →
      h.bucket = h'.bucket ∧ h.table = h'.table) ∧
    (∀ (h : History) r, (h.insert r).bucket.size = h.bucket.size + if r ∈ h.bucket then 0 else 1) ∧
    (∀ (h : History) k raw,
      (h.bucket.wouldAdd k raw = true ↔ ∃ r, Rule.parse? k raw = some r ∧ r ∉ h.bucket) ∧
      (h.insertRaw k raw).bucket.size = h.bucket.size + if h.bucket.wouldAdd k raw then 1 else 0) ∧
    (∀ h : History, h.bucket.size = (h.bucket.counts.map (·.2)).sum ∧
      h.bucket.size = (Kind.all.map h.bucket.count).sum) ∧
    (∀ h : History, (h.bucket.isEmpty = true ↔ h.bucket.size = 0) ∧
      (h.bucket.isEmpty = true ↔ h.bucket.kinds = [])) ∧
    (∀ (h : History) ks, h.bucket.hasAny ks = true ↔ ∃ k ∈ ks, 0 < h.bucket.count k) ∧
    (∀ a b c : Bucket, a.merge b = b.merge a ∧ (a.merge b).merge c = a.merge (b.merge c) ∧
      a.merge a = a) ∧
    ∀ h₁ h₂ h₃ : History, h₁.table.merge h₂.table = h₂.table.merge h₁.table ∧
      (h₁.table.merge h₂.table).merge h₃.table = h₁.table.merge (h₂.table.merge h₃.table) ∧
      h₁.table.merge h₁.table = h₁.table := by
  refine ⟨fun h => ⟨fun r => h.mem_bucket, h.files.answers, ?_⟩, ?_, ?_, ?_, ?_, ?_, ?_, ?_, ?_⟩
  · exact fun k vs hvs => ⟨h.files.ne_empty k vs hvs, h.files.values hvs⟩
  · intro h h' heq
    have hbucket := History.bucket_congr heq
    exact ⟨hbucket, History.table_congr hbucket⟩
  · exact fun h r => size_insert h.bucket r
  · exact fun h k raw => ⟨wouldAdd_iff, size_insertRaw h.bucket k raw⟩
  · exact fun h => ⟨size_eq_sum_counts h.bucket, size_eq_sum h.bucket⟩
  · exact fun h => ⟨isEmpty_iff_size, isEmpty_iff_kinds⟩
  · exact fun h ks => hasAny_iff
  · exact fun a b c => ⟨OrderedSet.union_comm a b, OrderedSet.union_assoc a b c,
      OrderedSet.union_self a⟩
  · intro h₁ h₂ h₃
    -- A merged table is that of the merged history, which its bucket tells.
    have hcomm : (h₁.merge h₂).bucket = (h₂.merge h₁).bucket := OrderedSet.union_comm _ _
    have hassoc : ((h₁.merge h₂).merge h₃).bucket = (h₁.merge (h₂.merge h₃)).bucket :=
      OrderedSet.union_assoc _ _ _
    have hself : (h₁.merge h₁).bucket = h₁.bucket := OrderedSet.union_self _
    exact ⟨History.table_congr hcomm, History.table_congr hassoc, History.table_congr hself⟩

/-- Neither the order of insertions nor a merge shows, nor does the spelling of what is inserted. -/
theorem order_leaves_no_trace :
    let h := ((History.empty.insertRaw .domain "a.com".toList).insertRaw .ipCidr
      "10.1.2.3/8".toList).merge (History.empty.insertRaw .domain "A.com".toList)
    let h' := (History.empty.insertRaw .ipCidr6 "10.0.0.0/8".toList).insertRaw .domain
      "+.a.com".toList
    h.bucket = h'.bucket ∧ h.table = h'.table := by
  intro h h'
  have haccepted : h.accepted = [⟨.domain, "a.com".toList⟩, ⟨.ipCidr, "10.0.0.0/8".toList⟩,
      ⟨.domain, "a.com".toList⟩] := by decide +kernel
  have haccepted' : h'.accepted = [⟨.ipCidr, "10.0.0.0/8".toList⟩, ⟨.domain, "a.com".toList⟩] := by
    decide +kernel
  obtain ⟨-, hcongr, -⟩ := history_keeps_accepted_rules
  refine hcongr h h' fun r => ?_
  rw [haccepted, haccepted']
  simp only [List.mem_cons, List.not_mem_nil, or_false]
  tauto

end RuleSets.Bucket
