import RuleSets.Data.Yaml.Character
import RuleSets.Data.Yaml.Plain

/-!
# Writing YAML

A list of strings under one key.  A string is written plain if that can be read back as the same
string, as a literal block if it has line feeds, and otherwise in single or double quotes.
-/

namespace RuleSets.Yaml

/-- How a string is written. -/
inductive Style where
  | plain
  | single
  | double
  | literal
deriving DecidableEq, Repr

/-! ### Choosing a style -/

/-- The style that the meaning of a string asks for. -/
def wantedStyle (s : Text) : Style :=
  if s.contains '\n' then .literal
  else if Plain.resolve s != .string || Plain.isZeroPadded s then .single
  else .plain

/-- Whether a character after the first is an indicator where it stands: a colon before a gap, or a
hash sign after one. -/
def hasInnerIndicator : Char → Text → Bool
  | _, [] => false
  | before, c :: s =>
    (c == ':' && atGap s) || (c == '#' && isGap before) || hasInnerIndicator c s

/-- Whether a string reads as something else than a plain scalar because of an indicator. -/
def hasIndicator : Text → Bool
  | [] => false
  | c :: s =>
    ['-', '-', '-'].isPrefixOf (c :: s) || ['.', '.', '.'].isPrefixOf (c :: s) ||
    isIndicator c || ((c == '?' || c == ':' || c == '-') && atGap s) || hasInnerIndicator c s

/-- Whether a character satisfying `p` is followed by one satisfying `q`. -/
def hasPair (p q : Char → Bool) : Text → Bool
  | a :: b :: s => (p a && q b) || hasPair p q (b :: s)
  | _ => false

/-- Whether a line break follows a space. -/
def hasSpaceBreak (s : Text) : Bool := hasPair (· == ' ') isBreak s

/-- Whether a space follows a line break. -/
def hasBreakSpace (s : Text) : Bool := hasPair isBreak (· == ' ') s

/-- Whether a string may be written without quotes. -/
def allowsPlain (s : Text) : Bool :=
  s.all (fun c => isPrintable c && !isBreak c) && s.head? != some ' ' && s.getLast? != some ' ' &&
    !hasIndicator s

/-- Whether a string may be written in single quotes. -/
def allowsSingle (s : Text) : Bool :=
  s.all isPrintable && !hasSpaceBreak s && !hasBreakSpace s

/-- Whether a string may be written as a literal block. -/
def allowsLiteral (s : Text) : Bool :=
  !s.isEmpty && s.all isPrintable && s.getLast? != some ' ' && !hasSpaceBreak s

/-- The style in which a string is written. -/
def styleOf (s : Text) : Style :=
  match wantedStyle s with
  | .literal => if allowsLiteral s then .literal else .double
  | .plain => if allowsPlain s then .plain else if allowsSingle s then .single else .double
  | _ => if allowsSingle s then .single else .double

/-! ### Writing in a style -/

/-- The inside of single quotes.  A quote is doubled, a line feed stands for itself only when
doubled, and a line is indented after a break. -/
def singleBody : Bool → Text → Text
  | broken, [] => if broken then [' ', ' '] else []
  | broken, c :: s =>
    if c == ' ' then c :: singleBody broken s
    else if isBreak c then
      (if !broken && c == '\n' then ['\n'] else []) ++ c :: singleBody true s
    else
      (if broken then [' ', ' '] else []) ++ (if c == '\'' then ['\''] else []) ++
        c :: singleBody false s

/-- The letter that stands for a character after a backslash. -/
def escapeLetter? (c : Char) : Option Char :=
  match c.toNat with
  | 0x00 => some '0'
  | 0x07 => some 'a'
  | 0x08 => some 'b'
  | 0x09 => some 't'
  | 0x0A => some 'n'
  | 0x0B => some 'v'
  | 0x0C => some 'f'
  | 0x0D => some 'r'
  | 0x1B => some 'e'
  | 0x22 => some '"'
  | 0x5C => some '\\'
  | 0x85 => some 'N'
  | 0xA0 => some '_'
  | 0x2028 => some 'L'
  | 0x2029 => some 'P'
  | _ => none

/-- The last `width` hexadecimal digits of a number, upper case. -/
def hexDigits : Nat → Nat → Text
  | 0, _ => []
  | width + 1, n => (n / Nat.pow 16 width % 16).digitChar.toUpper :: hexDigits width n

/-- How a character stands between double quotes. -/
def doubleChar (c : Char) : Text :=
  if isPrintable c && !isBreak c && c != '"' && c != '\\' then [c]
  else
    match escapeLetter? c with
    | some e => ['\\', e]
    | none =>
      if c.toNat ≤ 0xFF then '\\' :: 'x' :: hexDigits 2 c.toNat
      else if c.toNat ≤ 0xFFFF then '\\' :: 'u' :: hexDigits 4 c.toNat
      else '\\' :: 'U' :: hexDigits 8 c.toNat

/-- The lines of a literal block, each with two spaces before it unless it is empty. -/
def literalBody : Bool → Text → Text
  | _, [] => []
  | fresh, c :: s =>
    if isBreak c then c :: literalBody true s
    else (if fresh then [' ', ' '] else []) ++ c :: literalBody false s

/-- The indicators after the bar of a literal block: the indentation if the text does not show it,
and what becomes of the line breaks at the end. -/
def literalHints (s : Text) : Text :=
  (if s.head?.any (fun c => c == ' ' || isBreak c) then ['2'] else []) ++
    match s.reverse with
    | [] => ['-']
    | [c] => if isBreak c then ['+'] else ['-']
    | c :: d :: _ => if !isBreak c then ['-'] else if isBreak d then ['+'] else []

/-- A string in a style, without the line break that ends it. -/
def scalarText (style : Style) (s : Text) : Text :=
  match style with
  | .plain => s
  | .single => '\'' :: singleBody false s ++ ['\'']
  | .double => '"' :: s.flatMap doubleChar ++ ['"']
  | .literal => '|' :: literalHints s ++ '\n' :: literalBody true s

/-- A list item on lines of its own.  A literal block that ends in a line break needs no
other one. -/
def itemText (s : Text) : Text :=
  let style := styleOf s
  '-' :: ' ' :: scalarText style s ++
    (if style == .literal && s.getLast?.any isBreak then [] else ['\n'])

/-- A list of strings under a key. -/
def renderList (key : Text) (items : List Text) : Text :=
  if items.isEmpty then key ++ [':', ' ', '[', ']', '\n']
  else key ++ [':', '\n'] ++ items.flatMap itemText

end RuleSets.Yaml
