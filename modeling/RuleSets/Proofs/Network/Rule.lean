import RuleSets.Proofs.Network.Canonical
import RuleSets.Source.Extract

/-!
# Rules of networks

A rule of an address kind is the truncated form of the network that its raw value spells, whichever
of the two kinds was asked for.  Two raw values make the same rule just when their networks agree in
family, length and prefix (`networks_canonical`).
-/

namespace RuleSets

variable {m n : Network} {k : Kind} {raw : Text} {r : Rule}

/-! ### Truncation -/

/-- The bits of a network's address that its length covers. -/
def Network.prefixBits (n : Network) : Nat := n.address.value / 2 ^ n.hostBits

theorem Network.truncate_eq_iff : m.truncate = n.truncate ↔
    m.family = n.family ∧ m.length = n.length ∧ m.prefixBits = n.prefixBits := by
  constructor
  · intro h
    have hfamily : m.truncate.family = n.truncate.family := congrArg Network.family h
    have hlength : m.truncate.length = n.truncate.length := congrArg Network.length h
    rw [family_truncate, family_truncate] at hfamily
    rw [length_truncate, length_truncate] at hlength
    have hbits : m.hostBits = n.hostBits := by rw [hostBits, hostBits, hfamily, hlength]
    have hvalue : m.truncate.address.value = n.truncate.address.value := by rw [h]
    change m.prefixBits * 2 ^ m.hostBits = n.prefixBits * 2 ^ n.hostBits at hvalue
    rw [hbits] at hvalue
    exact ⟨hfamily, hlength, Nat.eq_of_mul_eq_mul_right (Nat.two_pow_pos _) hvalue⟩
  · obtain ⟨⟨f, v, hv⟩, l, hl⟩ := m
    obtain ⟨⟨g, w, hw⟩, k, hk⟩ := n
    rintro ⟨hfamily, hlength, hprefix⟩
    obtain rfl : f = g := hfamily
    obtain rfl : l = k := hlength
    simp only [truncate, Network.mk.injEq, Address.mk.injEq, true_and, and_true]
    exact congrArg (· * _) hprefix

/-! ### Rules -/

namespace Rule

theorem ofNetwork_eq_iff : ofNetwork m = ofNetwork n ↔ m.truncate = n.truncate := by
  constructor
  · intro h
    exact Network.toText_injective (Rule.mk.inj h).2
  · intro h
    have hfamily : m.family = n.family := (Network.truncate_eq_iff.1 h).1
    rw [ofNetwork, ofNetwork, h, hfamily]

/-- Of an address kind a raw value makes the rule of its network. -/
theorem parse?_network (hk : k.isCidr = true) (raw : Text) :
    parse? k raw = (Network.parse? raw).map ofNetwork := by
  have htrim : Network.parse? (Text.trim raw) = Network.parse? raw := by
    rw [Network.parse?, Network.parse?, Text.trim_trim]
  have hempty : Text.trim raw = [] → Network.parse? raw = none := by
    intro h
    rw [Network.parse?, h]
    decide
  have hparse : parse? k raw = if (Text.trim raw).isEmpty = true then none
      else (Network.parse? (Text.trim raw)).map ofNetwork := by
    cases k <;> first | rfl | cases hk
  rw [hparse, htrim]
  split
  · rename_i h
    rw [hempty (List.isEmpty_iff.1 h)]
    rfl
  · rfl

/-- Only networks are filed under another kind than the one asked for. -/
theorem kind_of_parse (h : parse? k raw = some r) (hk : k.isCidr = false) : r.kind = k := by
  cases k with
  | ipCidr | ipCidr6 => cases hk
  | domain | domainSuffix =>
    simp only [parse?, Option.ite_none_left_eq_some, Option.some.injEq] at h
    rw [← h.2.2]
  | _ =>
    simp only [parse?, Option.ite_none_left_eq_some, Option.some.injEq] at h
    rw [← h.2]

end Rule

/-- A value of an address kind in an extracted bucket is a truncated network, as it is written. -/
theorem exists_network_of_mem_values {format : Format} {s v : Text} {f : Family}
    (hv : v ∈ (extract format s).values (Rule.kindOf f)) :
    ∃ n, Network.parse? v = some n ∧ n.family = f ∧ n.truncate = n ∧ n.toText = v := by
  obtain ⟨raw, -, hraw⟩ := Bucket.mem_ofRaw.1 (Bucket.mem_values.1 hv)
  have hcidr : raw.1.isCidr = true := by
    cases hk : raw.1.isCidr with
    | true => rfl
    | false =>
      rw [← Rule.kind_of_parse hraw hk] at hk
      cases f <;> cases hk
  rw [Rule.parse?_network hcidr] at hraw
  obtain ⟨n, -, hn⟩ := Option.map_eq_some_iff.1 hraw
  obtain ⟨hkind, hvalue⟩ := Rule.mk.inj hn
  have hfamily : n.family = f := by
    cases hf : n.family <;> cases f <;> first | rfl | (rw [hf] at hkind; cases hkind)
  refine ⟨n.truncate, ?_, hfamily, n.truncate_truncate, hvalue⟩
  rw [← hvalue, Network.parse?_toText]

/-- Networks in a bucket are canonical.  Every extracted value of an address kind is a truncated
network of the kind's family, as it is written.  Of whichever address kind, a raw value makes the
same rule, if any, and two raw values make equal rules just when their networks agree in family,
length and prefix. -/
theorem networks_canonical :
    (∀ format s, (∀ v ∈ (extract format s).values .ipCidr, ∃ n, Network.parse? v = some n ∧
        n.family = .v4 ∧ n.truncate = n ∧ n.toText = v) ∧
      ∀ v ∈ (extract format s).values .ipCidr6, ∃ n, Network.parse? v = some n ∧
        n.family = .v6 ∧ n.truncate = n ∧ n.toText = v) ∧
    (∀ raw, Rule.parse? .ipCidr raw = Rule.parse? .ipCidr6 raw) ∧
    ∀ (raw₁ raw₂ : Text) (k₁ k₂ : Kind) (r₁ r₂ : Rule), k₁.isCidr = true → k₂.isCidr = true →
      Rule.parse? k₁ raw₁ = some r₁ → Rule.parse? k₂ raw₂ = some r₂ →
      ∃ n₁ n₂, Network.parse? raw₁ = some n₁ ∧ Network.parse? raw₂ = some n₂ ∧
        (r₁ = r₂ ↔ n₁.family = n₂.family ∧ n₁.length = n₂.length ∧
          n₁.prefixBits = n₂.prefixBits) := by
  refine ⟨fun format s => ⟨fun v hv => ?_, fun v hv => ?_⟩, fun raw => ?_, ?_⟩
  · exact exists_network_of_mem_values (f := .v4) hv
  · exact exists_network_of_mem_values (f := .v6) hv
  · rw [Rule.parse?_network rfl, Rule.parse?_network rfl]
  · intro raw₁ raw₂ k₁ k₂ r₁ r₂ hk₁ hk₂ h₁ h₂
    rw [Rule.parse?_network hk₁] at h₁
    rw [Rule.parse?_network hk₂] at h₂
    obtain ⟨n₁, hn₁, rfl⟩ := Option.map_eq_some_iff.1 h₁
    obtain ⟨n₂, hn₂, rfl⟩ := Option.map_eq_some_iff.1 h₂
    exact ⟨n₁, n₂, hn₁, hn₂, Rule.ofNetwork_eq_iff.trans Network.truncate_eq_iff⟩

theorem networks_agree_across_spellings : ∃ n₁ n₂,
    Network.parse? "10.1.2.3/8".toList = some n₁ ∧ Network.parse? "010.0.0.0/8".toList = some n₂ ∧
      ((⟨.ipCidr, "10.0.0.0/8".toList⟩ : Rule) = ⟨.ipCidr, "10.0.0.0/8".toList⟩ ↔
        n₁.family = n₂.family ∧ n₁.length = n₂.length ∧ n₁.prefixBits = n₂.prefixBits) :=
  networks_canonical.2.2 _ _ .ipCidr6 .ipCidr _ _ rfl rfl (by decide) (by decide)

end RuleSets
