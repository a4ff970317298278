import RuleSets.Text.Numeral

/-!
# Addresses

IPv4 and IPv6 addresses, how they are read and how they are written.  Two spellings are in use: the
address of a host, where an octet has no leading zero and `::` stands for at least one group, and
the address part of a network, where both rules are relaxed.
-/

namespace RuleSets

/-- The two address families. -/
inductive Family where
  | v4
  | v6
deriving DecidableEq, Repr

/-- The number of bits of an address. -/
def Family.width : Family → Nat
  | .v4 => 32
  | .v6 => 128

/-- An address as a number of its family's width. -/
structure Address where
  family : Family
  value : Nat
  value_lt : value < Nat.pow 2 family.width
deriving DecidableEq, Repr

namespace Address

/-- The address whose bits are the low bits of `n`. -/
def ofNat (f : Family) (n : Nat) : Address :=
  ⟨f, n % Nat.pow 2 f.width, Nat.mod_lt _ (Nat.two_pow_pos _)⟩

/-- How an address may be spelled. -/
structure Spelling where
  /-- Octets may have leading zeros. -/
  leadingZeros : Bool
  /-- `::` may stand for no group at all. -/
  emptyGap : Bool

/-- The spelling of a host address. -/
def Spelling.host : Spelling := ⟨false, false⟩

/-- The spelling of the address part of a network. -/
def Spelling.network : Spelling := ⟨true, true⟩

/-! ### Reading -/

/-- One decimal octet. -/
def readOctet? (sp : Spelling) (s : Text) : Option (Nat × Text) :=
  match s with
  | '0' :: c :: _ =>
    if !sp.leadingZeros && c.isDigit then none else Text.readNumeral? 10 3 256 s
  | _ => Text.readNumeral? 10 3 256 s

/-- `n` octets, each after a period except the first. -/
def readOctets? (sp : Spelling) : Nat → Text → Option (List Nat × Text)
  | 0, s => some ([], s)
  | 1, s => (readOctet? sp s).map fun (o, r) => ([o], r)
  | n + 2, s =>
    match readOctet? sp s with
    | some (o, '.' :: r) => (readOctets? sp (n + 1) r).map fun (os, r') => (o :: os, r')
    | _ => none

/-- The number whose digits in the given base are listed. -/
def joinDigits (base : Nat) (ds : List Nat) : Nat := ds.foldl (fun n d => n * base + d) 0

/-- A dotted address as a number. -/
def readV4? (sp : Spelling) (s : Text) : Option (Nat × Text) :=
  (readOctets? sp 4 s).map fun (os, r) => (joinDigits 256 os, r)

/-- At most `n` groups, each after a colon except the first, and whether they end in a dotted
address.  A dotted address counts as two groups and is read only where two are left. -/
def readGroups (sp : Spelling) : Nat → Bool → Text → List Nat × Bool × Text
  | 0, _, s => ([], false, s)
  | n + 1, first, s =>
    match (if first then some s else Text.afterPrefix? [':'] s) with
    | none => ([], false, s)
    | some r =>
      match (if n = 0 then none else readV4? sp r) with
      | some (a, r') => ([a / 65536, a % 65536], true, r')
      | none =>
        match Text.readNumeral? 16 4 65536 r with
        | none => ([], false, s)
        | some (g, r') =>
          let (gs, dotted, r'') := readGroups sp n false r'
          (g :: gs, dotted, r'')

/-- A colon address as a number: eight groups, or fewer around one `::`. -/
def readV6? (sp : Spelling) (s : Text) : Option (Nat × Text) :=
  let (head, dotted, r) := readGroups sp 8 true s
  if head.length = 8 then some (joinDigits 65536 head, r)
  else if dotted then none
  else
    match r with
    | ':' :: ':' :: r' =>
      let room := if sp.emptyGap then 8 - head.length else 8 - head.length - 1
      let (tail, _, r'') := readGroups sp room true r'
      let gap := List.replicate (8 - head.length - tail.length) 0
      some (joinDigits 65536 (head ++ gap ++ tail), r'')
    | _ => none

/-- An address of either family, with what follows it. -/
def read? (sp : Spelling) (f : Family) (s : Text) : Option (Address × Text) :=
  match f with
  | .v4 => (readV4? sp s).map fun (n, r) => (ofNat .v4 n, r)
  | .v6 => (readV6? sp s).map fun (n, r) => (ofNat .v6 n, r)

/-- A host address that is the whole text. -/
def parse? (s : Text) : Option Address :=
  match (read? .host .v4 s).or (read? .host .v6 s) with
  | some (a, []) => some a
  | _ => none

/-! ### Writing -/

/-- The `n` digits of `v` in the given base, the highest first. -/
def digitsOf (base : Nat) : Nat → Nat → List Nat
  | 0, _ => []
  | n + 1, v => v / Nat.pow base n % base :: digitsOf base n v

/-- A number in dotted form. -/
def dotted (v : Nat) : Text :=
  Text.joinWith ['.'] ((digitsOf 256 4 v).map Text.decimal)

/-- Groups in hexadecimal, with colons between. -/
def colonJoin (gs : List Nat) : Text :=
  Text.joinWith [':'] (gs.map (Text.numeral 16))

/-- The start and the length of the first longest run of zeros, for a list that begins at `i`. -/
def longestZeros : Nat → List Nat → Nat × Nat
  | _, [] => (0, 0)
  | i, g :: gs =>
    let here := ((g :: gs).takeWhile (· == 0)).length
    let (start, len) := longestZeros (i + 1) gs
    if here ≠ 0 ∧ len ≤ here then (i, here) else (start, len)

/-- A number as groups, the first longest run of two or more zeros written `::`, and an address that
maps an IPv4 one with its last four octets dotted. -/
def coloned (v : Nat) : Text :=
  if v / Nat.pow 2 32 = 0xFFFF then "::ffff:".toList ++ dotted (v % Nat.pow 2 32)
  else
    let gs := digitsOf 65536 8 v
    let (start, len) := longestZeros 0 gs
    if len ≤ 1 then colonJoin gs
    else colonJoin (gs.take start) ++ [':', ':'] ++ colonJoin (gs.drop (start + len))

/-- The written form of an address. -/
def toText (a : Address) : Text :=
  match a.family with
  | .v4 => dotted a.value
  | .v6 => coloned a.value

end Address
end RuleSets
