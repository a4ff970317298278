import RuleSets.Text.Numeral

/-!
# Classes of characters

The named classes of single bytes: letters, digits, blanks and so on.  Bytes outside ASCII are in
none of them.
-/

namespace RuleSets.Text

/-- Whether a character separates words on a line or lines. -/
def isSpace (c : Char) : Bool := c == ' ' || (9 ≤ c.toNat && c.toNat ≤ 13)

/-- Whether a character is visible or a space. -/
def isPrint (c : Char) : Bool := 32 ≤ c.toNat && c.toNat < 127

/-- The class of characters with a name. -/
def characterClass? (name : Text) : Option (Char → Bool) :=
  match String.ofList name with
  | "alpha" => some Char.isAlpha
  | "digit" => some Char.isDigit
  | "alnum" => some Char.isAlphanum
  | "upper" => some Char.isUpper
  | "lower" => some Char.isLower
  | "space" => some isSpace
  | "blank" => some fun c => c == ' ' || c == '\t'
  | "print" => some isPrint
  | "graph" => some fun c => isPrint c && c != ' '
  | "punct" => some fun c => isPrint c && c != ' ' && !c.isAlphanum
  | "cntrl" => some fun c => c.toNat < 32 || c.toNat == 127
  | "xdigit" => some (isDigitOf 16)
  | _ => none

end RuleSets.Text
