/-!
# Text

A text is the list of its characters.  This module holds the notion of white space that every part
of the library shares, and the trimming operations built on it.
-/

namespace RuleSets

/-- A text is the list of its characters. -/
abbrev Text := List Char

namespace Text

/-- White space as Unicode defines it: the characters with the property `White_Space`. -/
def isBlank (c : Char) : Bool :=
  let n := c.toNat
  (9 ≤ n && n ≤ 13) || n == 0x20 || n == 0x85 || n == 0xA0 || n == 0x1680 ||
  (0x2000 ≤ n && n ≤ 0x200A) || n == 0x2028 || n == 0x2029 || n == 0x202F || n == 0x205F ||
  n == 0x3000

/-- Drop leading white space. -/
def trimStart (s : Text) : Text := s.dropWhile isBlank

/-- Drop trailing white space. -/
def trimEnd (s : Text) : Text := (s.reverse.dropWhile isBlank).reverse

/-- Drop white space at both ends. -/
def trim (s : Text) : Text := trimEnd (trimStart s)

/-- What follows `p` in `s`, if `s` begins with `p`. -/
def afterPrefix? (p s : Text) : Option Text :=
  if p.isPrefixOf s then some (s.drop p.length) else none

/-- What precedes `p` in `s`, if `s` ends with `p`. -/
def beforeSuffix? (p s : Text) : Option Text :=
  if p.isSuffixOf s then some (s.take (s.length - p.length)) else none

/-- Lower-case the ASCII letters and leave all else. -/
def asciiLower (s : Text) : Text := s.map Char.toLower

/-- Whether two texts differ at most in the case of ASCII letters. -/
def eqIgnoringAsciiCase (s t : Text) : Bool := asciiLower s == asciiLower t

/-- The pieces of `s` between the characters that satisfy `p`; `n` separators give `n +
1` pieces. -/
def splitBy (p : Char → Bool) : Text → List Text
  | [] => [[]]
  | c :: s =>
    if p c then [] :: splitBy p s
    else
      match splitBy p s with
      | [] => [[c]]
      | w :: ws => (c :: w) :: ws

/-- Concatenate texts with a separator between neighbours. -/
def joinWith (sep : Text) : List Text → Text
  | [] => []
  | [s] => s
  | s :: t :: rest => s ++ sep ++ joinWith sep (t :: rest)

end Text
end RuleSets
