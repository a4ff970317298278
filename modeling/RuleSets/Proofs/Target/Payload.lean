import RuleSets.Proofs.Text.Utf8
import RuleSets.Proofs.Yaml.List
import RuleSets.Source.Document
import RuleSets.Target

/-!
# Payload lists read back

A payload list holds just the values that its behavior carries, in the order of their bytes, and the
text that it is written as reads back as that list (`payload_reads_back`).
-/

namespace RuleSets

theorem Json.parse?_letter (s : Text) : Json.parse? ('p' :: s) = none := by
  rfl

namespace Target

variable {b : Bucket} {behavior : Behavior} {s : Text}

theorem mem_payload : s ∈ payload b behavior ↔
    ∃ k ∈ behavior.kinds, ∃ v ∈ b.values k, payloadValue k v = s := by
  rw [payload, ← OrderedSet.mem_def, OrderedSet.mem_ofList]
  simp only [List.mem_flatMap, List.mem_map]

theorem payload_increasing :
    (payload b behavior).Pairwise fun s t => Utf8.encode s < Utf8.encode t :=
  (OrderedSet.sorted _).imp Utf8.encode_lt_encode

/-- A list has values when a bucket holds a rule of its kinds. -/
theorem payload_ne_nil : payload b behavior ≠ [] ↔ b.hasAny behavior.kinds = true := by
  simp only [Bucket.hasAny, List.any_eq_true, decide_eq_true_eq, Bucket.count, ne_eq,
    List.length_eq_zero_iff]
  constructor
  · intro hne
    obtain ⟨s, hs⟩ := List.exists_mem_of_ne_nil _ hne
    obtain ⟨k, hk, v, hv, -⟩ := mem_payload.1 hs
    exact ⟨k, hk, List.ne_nil_of_mem hv⟩
  · rintro ⟨k, hk, hne⟩
    obtain ⟨v, hv⟩ := List.exists_mem_of_ne_nil _ hne
    exact List.ne_nil_of_mem (mem_payload.2 ⟨k, hk, v, hv, rfl⟩)

/-- The text of a list is a document with the list's values under its key. -/
theorem parse_renderPayload : Document.parse (renderPayload b behavior) =
    .keyed .payload ((payload b behavior).map .string) := by
  obtain ⟨s, hs⟩ : ∃ s, renderPayload b behavior = 'p' :: s := by
    unfold renderPayload Yaml.renderList
    split <;> exact ⟨_, rfl⟩
  have hvalue : Document.value? (Text.dropMark (renderPayload b behavior)) =
      some (.object [("payload".toList, .list ((payload b behavior).map .string))]) := by
    rw [hs]
    show (Json.parse? ('p' :: s)).or (Yaml.parse? ('p' :: s)) = _
    rw [Json.parse?_letter, Option.none_or, ← hs]
    exact Yaml.parse?_renderList _
  rw [Document.parse, hvalue]
  rfl

/-- A payload list is increasing in the order of UTF-8 and holds just the values of its kinds,
suffixes behind their mark.  It has values when its target has content, and its text is read back as
a document with the same values. -/
theorem payload_reads_back (b : Bucket) :
    (∀ behavior, (payload b behavior).Pairwise fun s t => Utf8.encode s < Utf8.encode t) ∧
    (∀ s, s ∈ payload b .domain ↔
      s ∈ b.values .domain ∨ ∃ v ∈ b.values .domainSuffix, s = "+.".toList ++ v) ∧
    (∀ s, s ∈ payload b .ipCidr ↔ s ∈ b.values .ipCidr ∨ s ∈ b.values .ipCidr6) ∧
    (payload b .domain ≠ [] ↔ hasContent .mihomoDomain b = true) ∧
    (payload b .ipCidr ≠ [] ↔ hasContent .mihomoIpCidr b = true) ∧
    ∀ behavior, Document.parse (renderPayload b behavior) =
      .keyed .payload ((payload b behavior).map .string) := by
  refine ⟨fun _ => payload_increasing, fun s => ?_, fun s => ?_, payload_ne_nil, payload_ne_nil,
    fun _ => parse_renderPayload⟩
  · rw [mem_payload]
    simp [Behavior.kinds, payloadValue, eq_comm]
  · rw [mem_payload]
    simp [Behavior.kinds, payloadValue]

end Target
end RuleSets
