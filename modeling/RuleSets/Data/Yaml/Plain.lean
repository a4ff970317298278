import RuleSets.Data.Double
import RuleSets.Data.Value
import RuleSets.Text.Numeral

/-!
# What plain scalars mean

A scalar without quotes may be a null, a truth value or a number; everything else is a string.  The
same rule decides which strings have to be quoted when they are written.
-/

namespace RuleSets.Yaml

/-- The meaning of a scalar without quotes and without a tag. -/
inductive Plain where
  | null
  | bool (b : Bool)
  | int (n : Int)
  /-- An integer that needs more than 64 bits but not more than 128. -/
  | wide
  | float
  /-- An infinity, or no number. -/
  | unbounded
  | string
deriving DecidableEq, Repr

namespace Plain

/-- Whether a scalar spells the null value. -/
def isNull (s : Text) : Bool :=
  s == "null".toList || s == "Null".toList || s == "NULL".toList || s == ['~']

/-- The truth value that a scalar spells. -/
def bool? (s : Text) : Option Bool :=
  if s == "true".toList || s == "True".toList || s == "TRUE".toList then some true
  else if s == "false".toList || s == "False".toList || s == "FALSE".toList then some false
  else none

/-- Drop one leading sign. -/
def dropSign : Text → Text
  | c :: s => if c = '-' ∨ c = '+' then s else c :: s
  | [] => []

/-- Digits with a superfluous leading zero: these are strings. -/
def isZeroPadded (s : Text) : Bool :=
  match dropSign s with
  | '0' :: d :: ds => (d :: ds).all Char.isDigit
  | _ => false

/-- One or more digits as a number. -/
def digits? (base : Nat) (s : Text) : Option Nat :=
  if s.isEmpty || !s.all (Text.isDigitOf base) then none else some (Text.valueOf base s)

/-- The number after `0x`, `0o` or `0b`. -/
def based? : Text → Option Nat
  | '0' :: 'x' :: ds => digits? 16 ds
  | '0' :: 'o' :: ds => digits? 8 ds
  | '0' :: 'b' :: ds => digits? 2 ds
  | _ => none

/-- The integer that a scalar spells: decimal, or with a base, and with at most one sign. -/
def int? (s : Text) : Option Int :=
  match s with
  | '-' :: r =>
    match based? r with
    | some n => some (-n)
    | none => if isZeroPadded s then none else (digits? 10 r).map fun n => -(n : Int)
  | _ =>
    let r := (Text.afterPrefix? ['+'] s).getD s
    match based? r with
    | some n => some n
    | none => if isZeroPadded s then none else (digits? 10 r).map Int.ofNat

/-- Whether an integer fits 128 bits as a signed or an unsigned number. -/
def fits128 (n : Int) : Bool := decide (-Nat.pow 2 127 ≤ n) && decide (n < Nat.pow 2 128)

/-- The exponent of a number after its digits: nothing, or `e` with a sign and digits. -/
def exponent? : Text → Option Int
  | [] => some 0
  | c :: s =>
    if c = 'e' ∨ c = 'E' then
      match s with
      | '-' :: ds => (digits? 10 ds).map fun n => -(n : Int)
      | '+' :: ds => (digits? 10 ds).map Int.ofNat
      | ds => (digits? 10 ds).map Int.ofNat
    else none

/-- Whether a scalar without its plus sign spells a finite number: digits around an optional period,
then an optional exponent. -/
def isFinite (s : Text) : Bool :=
  let s := (Text.afterPrefix? ['-'] s).getD s
  let whole := s.takeWhile Char.isDigit
  let r := s.dropWhile Char.isDigit
  let (fraction, r) :=
    match r with
    | '.' :: r => (r.takeWhile Char.isDigit, r.dropWhile Char.isDigit)
    | r => ([], r)
  match exponent? r with
  | none => false
  | some e =>
    !(whole.isEmpty && fraction.isEmpty) &&
      !Double.overflows (Text.valueOf 10 (whole ++ fraction)) (e - fraction.length)

/-- The spellings of infinity. -/
def isInfinity (s : Text) : Bool :=
  s == ".inf".toList || s == ".Inf".toList || s == ".INF".toList

/-- The spellings of what is no number. -/
def isNotANumber (s : Text) : Bool :=
  s == ".nan".toList || s == ".NaN".toList || s == ".NAN".toList

/-- The number with a fraction that a scalar spells, if it spells one. -/
def float? (s : Text) : Option Plain :=
  let bare :=
    match s with
    | '+' :: r => if r.head? == some '+' || r.head? == some '-' then none else some r
    | r => some r
  match bare with
  | none => none
  | some r =>
    if isInfinity r || isNotANumber s || ((Text.afterPrefix? ['-'] s).any isInfinity) then
      some .unbounded
    else if isFinite r then some .float
    else none

/-- The meaning of an integer, by its size. -/
def ofInt (n : Int) : Option Plain :=
  if Value.fits64 n then some (.int n) else if fits128 n then some .wide else none

/-- The number that a scalar spells as an integer, if it is not too large to be one. -/
def integer? (s : Text) : Option Plain := (int? s).bind ofInt

/-- The meaning of a scalar. -/
def resolve (s : Text) : Plain :=
  if s.isEmpty || isNull s then .null
  else
    match bool? s with
    | some b => .bool b
    | none =>
      match integer? s with
      | some p => p
      | none => if isZeroPadded s then .string else (float? s).getD .string

end Plain
end RuleSets.Yaml
