import RuleSets.Network.Address

/-!
# Networks

A network is an address and a prefix length.  A bare host address stands for the network of that one
address.  Truncation clears the bits after the prefix.
-/

namespace RuleSets

/-- An address and how many of its leading bits identify the network. -/
structure Network where
  address : Address
  length : Nat
  length_le : length ≤ address.family.width
deriving DecidableEq, Repr

namespace Network

/-- The largest number of digits of a prefix length. -/
def lengthDigits : Family → Nat
  | .v4 => 2
  | .v6 => 3

/-- A network of one family that is the whole text: an address, a slash and a prefix length. -/
def parseFamily? (f : Family) (s : Text) : Option Network :=
  match Address.read? .network f s with
  | some (a, '/' :: r) =>
    match Text.readNumeral? 10 (lengthDigits f) (f.width + 1) r with
    | some (n, []) => if h : n ≤ a.family.width then some ⟨a, n, h⟩ else none
    | _ => none
  | _ => none

/-- A network in `address/length` form. -/
def parseSlash? (s : Text) : Option Network :=
  (parseFamily? .v4 s).or (parseFamily? .v6 s)

/-- The network of a single address. -/
def ofAddress (a : Address) : Network := ⟨a, a.family.width, Nat.le_refl _⟩

/-- A network or a bare address, with white space around it. -/
def parse? (s : Text) : Option Network :=
  let s := Text.trim s
  (parseSlash? s).or ((Address.parse? s).map ofAddress)

/-- The family of the address. -/
def family (n : Network) : Family := n.address.family

/-- The number of bits after the prefix. -/
def hostBits (n : Network) : Nat := n.family.width - n.length

/-- Clear the bits after the prefix. -/
def truncate (n : Network) : Network :=
  { n with
    address :=
      { n.address with
        value := n.address.value / Nat.pow 2 n.hostBits * Nat.pow 2 n.hostBits
        value_lt := Nat.lt_of_le_of_lt (Nat.div_mul_le_self _ _) n.address.value_lt } }

/-- The written form, `address/length`. -/
def toText (n : Network) : Text := n.address.toText ++ ['/'] ++ Text.decimal n.length

@[simp] theorem family_truncate (n : Network) : n.truncate.family = n.family := rfl
@[simp] theorem length_truncate (n : Network) : n.truncate.length = n.length := rfl

theorem truncate_truncate (n : Network) : n.truncate.truncate = n.truncate := by
  have h : 0 < Nat.pow 2 n.hostBits := Nat.two_pow_pos _
  have : n.truncate.hostBits = n.hostBits := rfl
  simp only [truncate, Network.mk.injEq, Address.mk.injEq, true_and, and_true]
  have h2 : (⟨⟨n.address.family, n.address.value / Nat.pow 2 n.hostBits * Nat.pow 2 n.hostBits,
    Nat.lt_of_le_of_lt (Nat.div_mul_le_self _ _) n.address.value_lt⟩, n.length,
    n.length_le⟩ : Network).hostBits = n.hostBits := rfl
  rw [h2, Nat.mul_div_cancel _ h]

end Network
end RuleSets
