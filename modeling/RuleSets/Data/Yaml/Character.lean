import RuleSets.Text.Basic

/-!
# The characters of YAML

The classes of characters that the grammar of YAML distinguishes.
-/

namespace RuleSets.Yaml

/-- A line break: carriage return, line feed, next line, line or paragraph separator. -/
def isBreak (c : Char) : Bool :=
  c == '\r' || c == '\n' || c == '\u0085' || c == '\u2028' || c == '\u2029'

/-- A space or a tab. -/
def isSpace (c : Char) : Bool := c == ' ' || c == '\t'

/-- A blank or a line break. -/
def isGap (c : Char) : Bool := isSpace c || isBreak c

/-- Whether a text is at its end or goes on with a blank or a line break. -/
def atGap : Text → Bool
  | [] => true
  | c :: _ => isGap c

/-- How a line break stands in a scalar: only the two separators keep their identity. -/
def foldBreak (c : Char) : Char := if c == '\u2028' || c == '\u2029' then c else '\n'

/-- A character that may stand in a stream. -/
def isReadable (c : Char) : Bool :=
  let n := c.toNat
  n == 0x09 || n == 0x0A || n == 0x0D || (0x20 ≤ n && n ≤ 0x7E) || n == 0x85 ||
  (0xA0 ≤ n && n ≤ 0xD7FF) || (0xE000 ≤ n && n ≤ 0xFFFD) || 0x10000 ≤ n

/-- A character that is written as it is. -/
def isPrintable (c : Char) : Bool :=
  let n := c.toNat
  n == 0x0A || (0x20 ≤ n && n ≤ 0x7E) || (0xA0 ≤ n && n ≤ 0xD7FF) ||
  (0xE000 ≤ n && n ≤ 0xFFFD && n != 0xFEFF) || 0x10000 ≤ n

/-- A character of an anchor's name or a tag's handle. -/
def isWord (c : Char) : Bool := c.isAlphanum || c == '_' || c == '-'

/-- A character that ends a plain scalar inside a flow collection. -/
def isFlowIndicator (c : Char) : Bool :=
  c == ',' || c == '[' || c == ']' || c == '{' || c == '}'

/-- A character that cannot start a plain scalar, whatever follows it. -/
def isIndicator (c : Char) : Bool :=
  isFlowIndicator c || c == '#' || c == '&' || c == '*' || c == '!' || c == '|' || c == '>' ||
  c == '\'' || c == '"' || c == '%' || c == '@' || c == '\x60'

/-- Whether three of the given character and then a gap come next. -/
def atMarker (c : Char) : Text → Bool
  | a :: b :: d :: s => a == c && b == c && d == c && atGap s
  | _ => false

/-- Whether a document marker, `---` or `...`, comes next. -/
def atDocumentMarker (s : Text) : Bool := atMarker '-' s || atMarker '.' s

end RuleSets.Yaml
