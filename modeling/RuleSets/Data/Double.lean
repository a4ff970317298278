/-!
# The range of doubles

Structured texts may spell numbers of any size, and a reader has to know which of them are too large
for a double.  A number overflows when it is at least `2 ^ 1024 - 2 ^ 970`, the midpoint between the
largest finite double and the next power of two.
-/

namespace RuleSets.Double

/-- The smallest number that rounds to infinity. -/
def overflow : Nat := Nat.pow 2 1024 - Nat.pow 2 970

/-- The integer nearest to `n` with 53 significant bits, a tie going to the even one. -/
def round (n : Nat) : Nat :=
  let shift := Nat.log2 n + 1 - 53
  let unit := Nat.pow 2 shift
  let q := n / unit
  let r := n % unit
  if 2 * r < unit ∨ (2 * r = unit ∧ q % 2 = 0) then q * unit else (q + 1) * unit

/-- Whether the decimal `digits · 10 ^ exponent` rounds to infinity. -/
def overflows (digits : Nat) (exponent : Int) : Bool :=
  if digits = 0 then false
  else
    let size := (Nat.log2 digits : Int) * 30103 / 100000 + exponent
    if 400 ≤ size then true
    else if size ≤ 200 then false
    else
      match exponent with
      | .ofNat e => decide (overflow ≤ digits * Nat.pow 10 e)
      | .negSucc e => decide (overflow * Nat.pow 10 (e + 1) ≤ digits)

/-- Whether the product of the doubles nearest to `significand` and to `10 ^ exponent`
is infinite. -/
def productOverflows (significand : Nat) (exponent : Int) : Bool :=
  if significand = 0 then false
  else
    match exponent with
    | .ofNat e => decide (308 < e) || decide (overflow ≤ round significand * round (Nat.pow 10 e))
    | .negSucc _ => false

end RuleSets.Double
