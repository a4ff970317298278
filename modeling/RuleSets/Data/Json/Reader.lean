import RuleSets.Data.Value
import RuleSets.Data.Double
import RuleSets.Text.Numeral

/-!
# Reading JSON

Strict JSON: no comments, no trailing commas, no lone surrogates, no number out of range, and less
than 128 nested levels.  Of two fields with one key the last counts.
-/

namespace RuleSets.Json

/-- The white space between tokens. -/
def isSpace (c : Char) : Bool := c == ' ' || c == '\n' || c == '\t' || c == '\r'

/-- Skip white space. -/
def skipSpace (s : Text) : Text := s.dropWhile isSpace

/-! ### Strings -/

/-- The number that four hexadecimal digits stand for. -/
def hex4? (a b c d : Char) : Option Nat :=
  if [a, b, c, d].all (Text.isDigitOf 16) then some (Text.valueOf 16 [a, b, c, d]) else none

/-- The character that a one-letter escape stands for. -/
def escaped? : Char → Option Char
  | '"' => some '"'
  | '\\' => some '\\'
  | '/' => some '/'
  | 'b' => some '\x08'
  | 'f' => some '\x0c'
  | 'n' => some '\n'
  | 'r' => some '\r'
  | 't' => some '\t'
  | _ => none

/-- The character of a surrogate pair. -/
def joinSurrogates (high low : Nat) : Char :=
  Char.ofNat (0x10000 + (high - 0xD800) * 0x400 + (low - 0xDC00))

/-- The rest of a string after its opening quote, and what follows the closing one. -/
def readString? : Text → Option (Text × Text)
  | [] => none
  | '"' :: s => some ([], s)
  | '\\' :: 'u' :: a :: b :: c :: d :: s =>
    match hex4? a b c d with
    | none => none
    | some n =>
      if 0xDC00 ≤ n ∧ n ≤ 0xDFFF then none
      else if 0xD800 ≤ n ∧ n ≤ 0xDBFF then
        match s with
        | '\\' :: 'u' :: a' :: b' :: c' :: d' :: s' =>
          match hex4? a' b' c' d' with
          | none => none
          | some m =>
            if 0xDC00 ≤ m ∧ m ≤ 0xDFFF then
              (readString? s').map fun (t, r) => (joinSurrogates n m :: t, r)
            else none
        | _ => none
      else (readString? s).map fun (t, r) => (Char.ofNat n :: t, r)
  | '\\' :: e :: s =>
    match escaped? e with
    | none => none
    | some c => (readString? s).map fun (t, r) => (c :: t, r)
  | c :: s =>
    if c = '\\' ∨ c.toNat < 0x20 then none
    else (readString? s).map fun (t, r) => (c :: t, r)

/-! ### Numbers -/

/-- The largest significand that is kept exactly. -/
def maxSignificand : Nat := Nat.pow 2 64 - 1

/-- Add digits to a significand while it stays below `2 ^ 64`.  Returns it with the number of digits
that were added and of those that were not. -/
def addDigits (significand : Nat) : Text → Nat × Nat × Nat
  | [] => (significand, 0, 0)
  | c :: ds =>
    let n := significand * 10 + Text.digitValue c
    if maxSignificand < n then (significand, 0, ds.length + 1)
    else
      let (m, added, dropped) := addDigits n ds
      (m, added + 1, dropped)

/-- The exponent after an `e`, if there is one: its sign, its digits and what follows. -/
def readExponent? : Text → Option (Option (Bool × Text) × Text)
  | [] => some (none, [])
  | c :: s =>
    if c = 'e' ∨ c = 'E' then
      let (positive, s) :=
        match s with
        | '+' :: s => (true, s)
        | '-' :: s => (false, s)
        | s => (true, s)
      let ds := s.takeWhile Char.isDigit
      if ds.isEmpty then none else some (some (positive, ds), s.dropWhile Char.isDigit)
    else some (none, c :: s)

/-- The fraction after a period, if there is one. -/
def readFraction? : Text → Option (Option Text × Text)
  | '.' :: s =>
    let ds := s.takeWhile Char.isDigit
    if ds.isEmpty then none else some (some ds, s.dropWhile Char.isDigit)
  | s => some (none, s)

/-- Whether a number with this significand and scale, times ten to a spelled exponent, is
in range. -/
def inRange (significand : Nat) (scale : Int) : Option (Bool × Text) → Bool
  | none => !Double.productOverflows significand scale
  | some (positive, ds) =>
    let e := Text.valueOf 10 ds
    if Nat.pow 2 31 ≤ e then significand = 0 || !positive
    else !Double.productOverflows significand (if positive then scale + e else scale - e)

/-- The spelling of a number that starts at `s` and ends at `r`, with its sign. -/
def spelling (negative : Bool) (s r : Text) : Text :=
  (if negative then ['-'] else []) ++ s.take (s.length - r.length)

/-- A number without its sign.  It is an integer when it has neither fraction nor exponent and fits
64 bits; minus zero is none. -/
def readNumber? (negative : Bool) (s : Text) : Option (Value × Text) := do
  let ds := s.takeWhile Char.isDigit
  if ds.isEmpty || (ds.head? == some '0' && ds.length ≠ 1) then none
  else
    let (significand, _, dropped) := addDigits 0 ds
    let (fraction, r) ← readFraction? (s.dropWhile Char.isDigit)
    let (exponent, r) ← readExponent? r
    if fraction.isNone && exponent.isNone && dropped = 0 then
      if !negative then some (.int significand, r)
      else if significand ≠ 0 ∧ significand ≤ Nat.pow 2 63 then some (.int (-significand), r)
      else some (.float (spelling negative s r), r)
    else
      let (significand, added, _) := addDigits significand (fraction.getD [])
      if inRange significand ((dropped : Int) - added) exponent then
        some (.float (spelling negative s r), r)
      else none

/-! ### Values -/

/-- The largest number of nested levels. -/
def maxDepth : Nat := 127

mutual

/-- A value at the start of a text, with what follows it.  `depth` levels may still be opened. -/
def readValue? : Nat → Nat → Text → Option (Value × Text)
  | 0, _, _ => none
  | fuel + 1, depth, s =>
    match s with
    | '"' :: r => (readString? r).map fun (t, r) => (.string t, r)
    | '[' :: r =>
      match depth with
      | 0 => none
      | depth + 1 =>
        match skipSpace r with
        | ']' :: r => some (.list [], r)
        | r => (readItems? fuel depth r).map fun (vs, r) => (.list vs, r)
    | '{' :: r =>
      match depth with
      | 0 => none
      | depth + 1 =>
        match skipSpace r with
        | '}' :: r => some (.object [], r)
        | r => (readFields? fuel depth r).map fun (fs, r) => (.object (Value.fieldsOf fs), r)
    | 'n' :: 'u' :: 'l' :: 'l' :: r => some (.null, r)
    | 't' :: 'r' :: 'u' :: 'e' :: r => some (.bool true, r)
    | 'f' :: 'a' :: 'l' :: 's' :: 'e' :: r => some (.bool false, r)
    | '-' :: r => readNumber? true r
    | r => readNumber? false r

/-- The items of a list up to the closing bracket. -/
def readItems? : Nat → Nat → Text → Option (List Value × Text)
  | 0, _, _ => none
  | fuel + 1, depth, s =>
    match readValue? fuel depth s with
    | none => none
    | some (v, r) =>
      match skipSpace r with
      | ']' :: r => some ([v], r)
      | ',' :: r => (readItems? fuel depth (skipSpace r)).map fun (vs, r) => (v :: vs, r)
      | _ => none

/-- The fields of an object up to the closing brace. -/
def readFields? : Nat → Nat → Text → Option (List (Text × Value) × Text)
  | 0, _, _ => none
  | fuel + 1, depth, s =>
    match s with
    | '"' :: r =>
      match readString? r with
      | none => none
      | some (k, r) =>
        match skipSpace r with
        | ':' :: r =>
          match readValue? fuel depth (skipSpace r) with
          | none => none
          | some (v, r) =>
            match skipSpace r with
            | '}' :: r => some ([(k, v)], r)
            | ',' :: r =>
              (readFields? fuel depth (skipSpace r)).map fun (fs, r) => ((k, v) :: fs, r)
            | _ => none
        | _ => none
    | _ => none

end

/-- The value that a whole text stands for. -/
def parse? (s : Text) : Option Value :=
  match readValue? (2 * s.length + 2) maxDepth (skipSpace s) with
  | some (v, r) => if (skipSpace r).isEmpty then some v else none
  | none => none

end RuleSets.Json
