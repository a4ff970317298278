import RuleSets.Text.Numeral

/-!
# Doubles in decimal

Reading decimals as doubles and writing doubles in decimal, without rounding twice: a double is kept
as the exact fraction that it is.
-/

namespace RuleSets.Double

/-- A nonnegative fraction. -/
structure Fraction where
  num : Nat
  den : Nat

/-- The integer nearest to a quotient, a tie going to the even one. -/
def roundQuotient (a b : Nat) : Nat :=
  let q := a / b
  let r := a % b
  if 2 * r < b ∨ (2 * r = b ∧ q % 2 = 0) then q else q + 1

namespace Fraction

/-- A fraction times a power. -/
def scale (v : Fraction) (base : Nat) : Int → Fraction
  | .ofNat e => ⟨v.num * Nat.pow base e, v.den⟩
  | .negSucc e => ⟨v.num, v.den * Nat.pow base (e + 1)⟩

/-- The integer nearest to a fraction. -/
def round (v : Fraction) : Nat := roundQuotient v.num v.den

/-- The greatest exponent from a bound downwards whose power of a base is not above a fraction. -/
def exponentBelow (v : Fraction) (base : Nat) : Nat → Int → Int
  | 0, e => e
  | n + 1, e =>
    let w := v.scale base (-e)
    if w.den ≤ w.num then e else exponentBelow v base n (e - 1)

/-- The exponent of the greatest power of ten that is not above a fraction other than zero. -/
def exponent (v : Fraction) : Int :=
  let a := (Text.decimal v.num).length
  let b := (Text.decimal v.den).length
  v.exponentBelow 10 3 ((a : Int) - b + 1)

/-- The double nearest to a fraction, if it is finite. -/
def toDouble? (v : Fraction) : Option Fraction :=
  if v.num = 0 then some ⟨0, 1⟩
  else
    let size := v.exponentBelow 2 3 ((Nat.log2 v.num : Int) - Nat.log2 v.den + 1)
    let unit := max (size - 52) (-1074)
    let m := (v.scale 2 (-unit)).round
    if 1024 ≤ size ∨ (size = 1023 ∧ Nat.pow 2 53 ≤ m) then none
    else some (scale ⟨m, 1⟩ 2 unit)

/-- A fraction with a number of places behind the period. -/
def fixed (v : Fraction) (places : Nat) : Text :=
  let ds := Text.decimal (v.scale 10 places).round
  let ds := List.replicate (places + 1 - ds.length) '0' ++ ds
  let whole := ds.take (ds.length - places)
  if places = 0 then whole else whole ++ '.' :: ds.drop whole.length

/-- The digits of a fraction, one before and some behind the period, and its exponent. -/
def scientific (v : Fraction) (places : Nat) : Text × Int :=
  if v.num = 0 then (List.replicate (places + 1) '0', 0)
  else
    let e := v.exponent
    let n := (v.scale 10 (places - e)).round
    if n < Nat.pow 10 (places + 1) then (Text.decimal n, e) else (Text.decimal (n / 10), e + 1)

end Fraction

/-- The exponent of a number: a letter and a numeral, if they are there, and what follows them. -/
def readExponent (letter : Char) (s : Text) : Int × Text :=
  match s with
  | e :: r =>
    let (negative, r) : Bool × Text :=
      match r with
      | '-' :: r => (true, r)
      | '+' :: r => (false, r)
      | r => (false, r)
    let ds := r.takeWhile Char.isDigit
    if e.toLower == letter && !ds.isEmpty then
      let n : Int := min (Text.valueOf 10 ds) 20000
      (if negative then -n else n, r.drop ds.length)
    else (0, s)
  | [] => (0, [])

/-- A number in base 16, behind what marks it as one. -/
def readHexadecimal? (s : Text) : Option (Fraction × Text) :=
  let whole := s.takeWhile (Text.isDigitOf 16)
  let rest := s.drop whole.length
  let fraction : Text := match rest with | '.' :: r => r.takeWhile (Text.isDigitOf 16) | _ => []
  let rest := match rest with | '.' :: r => r.drop fraction.length | r => r
  if whole.isEmpty && fraction.isEmpty then none
  else
    let (exponent, rest) := readExponent 'p' rest
    let v : Fraction := ⟨Text.valueOf 16 (whole ++ fraction), 1⟩
    some (v.scale 2 (exponent - 4 * fraction.length), rest)

/-- A number with an optional fraction and exponent at the start of a text, as a fraction, and what
follows it. -/
def readDecimal? (s : Text) : Option (Fraction × Text) :=
  let whole := s.takeWhile Char.isDigit
  let rest := s.drop whole.length
  let fraction : Text := match rest with | '.' :: r => r.takeWhile Char.isDigit | _ => []
  let rest := match rest with | '.' :: r => r.drop fraction.length | r => r
  if whole.isEmpty && fraction.isEmpty then none
  else
    let (exponent, rest) := readExponent 'e' rest
    let v : Fraction := ⟨Text.valueOf 10 (whole ++ fraction), 1⟩
    some (v.scale 10 (exponent - fraction.length), rest)

/-- A number in base 10 or, behind a zero and an X, in base 16. -/
def readNumber? (s : Text) : Option (Fraction × Text) :=
  match s with
  | '0' :: x :: rest =>
    if x == 'x' || x == 'X' then (readHexadecimal? rest).or (readDecimal? s) else readDecimal? s
  | s => readDecimal? s

end RuleSets.Double
