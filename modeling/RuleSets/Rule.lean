import RuleSets.Rule.Kind
import RuleSets.Network
import RuleSets.OrderedSet
import RuleSets.Text.Lowercase

/-!
# Rules

A rule is a value of some kind.  `Rule.parse?` brings a raw value into its canonical form: networks
are truncated and filed by family, domain names are lower-cased and lose leading dots.  Rules are
ordered by kind and then by the code points of the value, which is also the order of the UTF-8
bytes.
-/

namespace RuleSets

/-- A value to match, and what it is matched against. -/
structure Rule where
  kind : Kind
  value : Text
deriving DecidableEq, Repr, Inhabited

namespace Rule

/-- Rules are ordered by kind, then by value. -/
def Before (r s : Rule) : Prop :=
  r.kind.index < s.kind.index ∨ r.kind = s.kind ∧ r.value < s.value

instance : LT Rule := ⟨Before⟩

instance : DecidableLT Rule := fun r s =>
  inferInstanceAs (Decidable (r.kind.index < s.kind.index ∨ r.kind = s.kind ∧ r.value < s.value))

theorem lt_def {r s : Rule} :
    r < s ↔ r.kind.index < s.kind.index ∨ r.kind = s.kind ∧ r.value < s.value := Iff.rfl

instance : StrictlyOrdered Rule where
  irrefl r := by
    rw [lt_def]
    rintro (h | h)
    · exact Nat.lt_irrefl _ h
    · exact StrictlyOrdered.irrefl _ h.2
  trans := by
    intro r s t
    simp only [lt_def]
    rintro (h | ⟨h, h'⟩) (k | ⟨k, k'⟩)
    · exact Or.inl (Nat.lt_trans h k)
    · exact Or.inl (k ▸ h)
    · exact Or.inl (h ▸ k)
    · exact Or.inr ⟨h.trans k, StrictlyOrdered.trans h' k'⟩
  compare r s := by
    simp only [lt_def]
    rcases Nat.lt_trichotomy r.kind.index s.kind.index with h | h | h
    · exact Or.inl (Or.inl h)
    · have hk := Kind.index_injective h
      rcases StrictlyOrdered.compare r.value s.value with hv | hv | hv
      · exact Or.inl (Or.inr ⟨hk, hv⟩)
      · right; left
        cases r; cases s; cases hk; cases hv; rfl
      · exact Or.inr (Or.inr (Or.inr ⟨hk.symm, hv⟩))
    · exact Or.inr (Or.inr (Or.inl h))

/-- The kind under which networks of a family are filed. -/
def kindOf : Family → Kind
  | .v4 => .ipCidr
  | .v6 => .ipCidr6

/-- The rule for a network: its truncated form, filed by family. -/
def ofNetwork (n : Network) : Rule := ⟨kindOf n.family, n.truncate.toText⟩

/-- Take off one leading `+.`, then every leading period. -/
def stripDots (s : Text) : Text :=
  ((Text.afterPrefix? ['+', '.'] s).getD s).dropWhile (· == '.')

/-- The canonical rule for a raw value, or nothing if the value is empty or no network.  The kind
asked for decides only whether a value is a network; its family decides where it is filed. -/
def parse? (kind : Kind) (raw : Text) : Option Rule :=
  let raw := Text.trim raw
  if raw.isEmpty then none
  else
    match kind with
    | .ipCidr | .ipCidr6 => (Network.parse? raw).map ofNetwork
    | .domain | .domainSuffix =>
      let value := Text.lower (stripDots raw)
      if value.isEmpty then none else some ⟨kind, value⟩
    | .domainKeyword => some ⟨kind, Text.lower raw⟩
    | _ => some ⟨kind, raw⟩

end Rule
end RuleSets
