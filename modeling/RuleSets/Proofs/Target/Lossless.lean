import Mathlib.Data.List.Nodup
import RuleSets.Proofs.Network.Rule
import RuleSets.Proofs.OrderedSet
import RuleSets.Proofs.Target.Payload
import RuleSets.Proofs.Text.Lowercase

/-!
# When the domain list keeps rules apart

In a domain list suffixes are marked and exact domains are not, so a list tells them apart unless an
exact domain begins with the mark.  Taking dots off a raw value removes one mark only, and the list of
a bucket keeps all its rules apart just when no raw value of an exact domain has another one behind
it (`domain_payload_lossless_iff`).
-/

namespace RuleSets

theorem Bucket.nodup_values (b : Bucket) (k : Kind) : (b.values k).Nodup := by
  refine List.Nodup.map_on ?_ ((StrictlyOrdered.nodup b.sorted).filter _)
  rintro ⟨k₁, v₁⟩ h₁ ⟨k₂, v₂⟩ h₂ rfl
  obtain rfl : k₁ = k := by simpa using (List.mem_filter.1 h₁).2
  obtain rfl : k₂ = k₁ := by simpa using (List.mem_filter.1 h₂).2
  rfl

/-- Exact domains come from raw values of their kind only. -/
theorem Rule.parse?_eq_domain {k : Kind} {raw v : Text} : parse? k raw = some ⟨.domain, v⟩ ↔
    k = .domain ∧ v ≠ [] ∧ Text.lower (stripDots (Text.trim raw)) = v := by
  constructor
  · intro h
    cases hk : k.isCidr with
    | true =>
      rw [parse?_network hk] at h
      obtain ⟨n, -, hn⟩ := Option.map_eq_some_iff.1 h
      have hkind : kindOf n.family = .domain := (Rule.mk.inj hn).1
      cases hf : n.family <;> rw [hf] at hkind <;> cases hkind
    | false =>
      obtain rfl : .domain = k := kind_of_parse h hk
      simp only [parse?, Option.ite_none_left_eq_some, Option.some.injEq, Rule.mk.injEq,
        true_and] at h
      obtain ⟨-, hne, rfl⟩ := h
      exact ⟨rfl, by simpa using hne, rfl⟩
  · rintro ⟨rfl, hne, rfl⟩
    have hraw : Text.trim raw ≠ [] := by
      intro hraw
      rw [hraw] at hne
      exact hne rfl
    simp [parse?, hraw, hne]

namespace Target

variable {b : Bucket} {s v : Text} {raws : List RawRule}

/-- What stands before a suffix in a payload list. -/
def suffixMark : Text := "+.".toList

/-- Whether a payload list holds every rule of exact domains and of suffixes by itself, and marks
the suffixes only. -/
def KeepsApart (b : Bucket) : Prop :=
  (payload b .domain).length = b.count .domain + b.count .domainSuffix ∧
    ∀ s, (s ∈ payload b .domain ∧ suffixMark <+: s) ↔
      ∃ v ∈ b.values .domainSuffix, s = suffixMark ++ v

/-! ### The list of a bucket -/

theorem mem_payload_domain : s ∈ payload b .domain ↔
    s ∈ b.values .domain ∨ ∃ v ∈ b.values .domainSuffix, s = suffixMark ++ v := by
  rw [mem_payload]
  simp [Behavior.kinds, payloadValue, suffixMark, eq_comm]

/-- The list holds the exact domains, and of the suffixes those that no exact domain looks like. -/
theorem payload_domain_perm : (payload b .domain).Perm
    (b.values .domain ++ ((b.values .domainSuffix).filter
      fun v => suffixMark ++ v ∉ b.values .domain).map (suffixMark ++ ·)) := by
  refine (List.perm_ext_iff_of_nodup (StrictlyOrdered.nodup (OrderedSet.sorted _)) ?_).2 fun s => ?_
  · refine List.nodup_append.2 ⟨b.nodup_values _, ?_, ?_⟩
    · exact ((b.nodup_values _).filter _).map (List.append_right_injective suffixMark)
    · rintro s hs _ hmarked rfl
      obtain ⟨v, hv, rfl⟩ := List.mem_map.1 hmarked
      exact of_decide_eq_true (List.mem_filter.1 hv).2 hs
  · change s ∈ payload b .domain ↔ _
    rw [mem_payload_domain, List.mem_append, List.mem_map]
    constructor
    · rintro (hs | ⟨v, hv, rfl⟩)
      · exact .inl hs
      · by_cases hmem : suffixMark ++ v ∈ b.values .domain
        · exact .inl hmem
        · exact .inr ⟨v, List.mem_filter.2 ⟨hv, decide_eq_true hmem⟩, rfl⟩
    · rintro (hs | ⟨v, hv, rfl⟩)
      · exact .inl hs
      · exact .inr ⟨v, (List.mem_filter.1 hv).1, rfl⟩

/-- A suffix is lost from the length of the list when an exact domain looks like it. -/
theorem length_payload_domain : (payload b .domain).length +
    ((b.values .domainSuffix).filter fun v => suffixMark ++ v ∈ b.values .domain).length =
      b.count .domain + b.count .domainSuffix := by
  have hsplit := List.length_eq_length_filter_add (l := b.values .domainSuffix)
    fun v => decide (suffixMark ++ v ∈ b.values .domain)
  rw [payload_domain_perm.length_eq, List.length_append, List.length_map, Bucket.count,
    Bucket.count, hsplit]
  simp only [decide_not]
  omega

theorem keepsApart_iff : KeepsApart b ↔ ∀ v ∈ b.values .domain, ¬ suffixMark <+: v := by
  constructor
  · rintro ⟨hlength, hmarked⟩ v hv hmark
    obtain ⟨w, hw, rfl⟩ := (hmarked v).1 ⟨mem_payload_domain.2 (.inl hv), hmark⟩
    have hlost : ((b.values .domainSuffix).filter
        fun v => suffixMark ++ v ∈ b.values .domain) = [] := by
      have := length_payload_domain (b := b)
      exact List.length_eq_zero_iff.1 (by omega)
    exact List.filter_eq_nil_iff.1 hlost w hw (decide_eq_true hv)
  · intro h
    have hlost : ((b.values .domainSuffix).filter
        fun v => suffixMark ++ v ∈ b.values .domain) = [] :=
      List.filter_eq_nil_iff.2 fun v _ hv => h _ (of_decide_eq_true hv) (List.prefix_append _ _)
    refine ⟨?_, fun s => ⟨?_, ?_⟩⟩
    · rw [← length_payload_domain, hlost]
      rfl
    · rintro ⟨hs, hmark⟩
      exact (mem_payload_domain.1 hs).resolve_left fun hv => h s hv hmark
    · rintro ⟨v, hv, rfl⟩
      exact ⟨mem_payload_domain.2 (.inr ⟨v, hv, rfl⟩), List.prefix_append _ _⟩

/-! ### Raw values -/

theorem isSign_suffixMark : ∀ c ∈ suffixMark, Text.IsSign c := by
  simp [suffixMark, Text.IsSign]

/-- Of the raw values of exact domains, those with a mark that is not taken off make a marked
domain. -/
theorem exists_marked_iff : (∃ v ∈ (Bucket.ofRaw raws).values .domain, suffixMark <+: v) ↔
    ∃ raw ∈ raws, raw.1 = .domain ∧ suffixMark <+: Rule.stripDots (Text.trim raw.2) := by
  simp only [Bucket.mem_values, Bucket.mem_ofRaw, Rule.parse?_eq_domain]
  constructor
  · rintro ⟨v, ⟨raw, hraw, hkind, -, rfl⟩, hmark⟩
    exact ⟨raw, hraw, hkind, (Text.isPrefix_lowerFrom isSign_suffixMark).1 hmark⟩
  · rintro ⟨raw, hraw, hkind, hmark⟩
    have hlower : suffixMark <+: Text.lower (Rule.stripDots (Text.trim raw.2)) :=
      (Text.isPrefix_lowerFrom isSign_suffixMark).2 hmark
    refine ⟨_, ⟨raw, hraw, hkind, ?_, rfl⟩, hlower⟩
    exact List.ne_nil_of_length_pos (Nat.lt_of_lt_of_le (by decide) hlower.length_le)

/-- Inserting raw values one after the other gives a list that keeps all rules apart just when no
raw value of an exact domain has a mark left behind the one that is taken off.  Otherwise what is
missing from the list's length are the suffixes that an exact domain looks like. -/
theorem domain_payload_lossless_iff (raws : List RawRule) :
    let b := raws.foldl (fun b raw => b.insertRaw raw.1 raw.2) (∅ : Bucket)
    (KeepsApart b ↔ ∀ raw ∈ raws, raw.1 = .domain →
      ¬ suffixMark <+: Rule.stripDots (Text.trim raw.2)) ∧
    (payload b .domain).length +
      ((b.values .domainSuffix).filter fun v => suffixMark ++ v ∈ b.values .domain).length =
        b.count .domain + b.count .domainSuffix := by
  intro b
  refine ⟨?_, length_payload_domain⟩
  rw [keepsApart_iff]
  constructor
  · intro h raw hraw hkind hmark
    obtain ⟨v, hv, hmarked⟩ := exists_marked_iff.2 ⟨raw, hraw, hkind, hmark⟩
    rw [← Bucket.foldl_insertRaw] at hv
    exact h v hv hmarked
  · intro h v hv hmark
    rw [show b = Bucket.ofRaw raws from Bucket.foldl_insertRaw raws] at hv
    obtain ⟨raw, hraw, hkind, hmark⟩ := exists_marked_iff.1 ⟨v, hv, hmark⟩
    exact h raw hraw hkind hmark

/-- Two marks before an exact domain make it a suffix. -/
theorem marked_domain_is_merged :
    let b := [(Kind.domain, "+.+.a.com".toList), (.domainSuffix, "a.com".toList)].foldl
      (fun b raw => b.insertRaw raw.1 raw.2) (∅ : Bucket)
    ¬ KeepsApart b ∧ payload b .domain = ["+.a.com".toList] ∧
      b.count .domain = 1 ∧ b.count .domainSuffix = 1 := by
  refine ⟨fun h => absurd h.1 ?_, ?_⟩ <;> decide

end Target
end RuleSets
