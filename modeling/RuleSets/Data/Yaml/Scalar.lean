import RuleSets.Data.Yaml.Token
import RuleSets.Text.Numeral

/-!
# Scalars of YAML

Reading plain, quoted and block scalars.  Words are separated by gaps, and a gap that spans lines is
folded: one line feed becomes a space, and of more the first is dropped.
-/

namespace RuleSets.Yaml

/-- The blanks and line breaks between two words.  On one line they are kept; over several lines the
blanks are dropped.  The first break is missing when it was escaped. -/
inductive Gap where
  | blanks (s : Text)
  | lines (first : Option Char) (more : Text)
deriving Repr

namespace Gap

/-- A gap of nothing. -/
def empty : Gap := blanks []

/-- Add a blank. -/
def addBlank (c : Char) : Gap → Gap
  | blanks s => blanks (s ++ [c])
  | lines first more => lines first more

/-- Add a line break. -/
def addBreak (c : Char) : Gap → Gap
  | blanks _ => lines (some (foldBreak c)) []
  | lines first more => lines first (more ++ [foldBreak c])

/-- Whether the gap spans lines. -/
def isLines : Gap → Bool
  | blanks _ => false
  | lines _ _ => true

/-- What the gap stands for. -/
def text : Gap → Text
  | blanks s => s
  | lines (some '\n') [] => [' ']
  | lines (some '\n') more => more
  | lines (some c) more => c :: more
  | lines none more => more

end Gap

/-- A scalar that was read, whether it ended in a gap that spans lines, and what follows. -/
structure ScalarRead where
  text : Text
  endsInLines : Bool
  pos : Position
  rest : Text

/-- Put characters before what was read. -/
def ScalarRead.cons (s : Text) (r : ScalarRead) : ScalarRead := { r with text := s ++ r.text }

/-! ### Plain scalars -/

/-- Read a plain scalar.  `gap` is the gap that was read since the last word, if one was.  In block
context the scalar ends where a line is indented less than `indent`. -/
def readPlain? (flow : Bool) (indent : Nat) : Option Gap → Position → Text → Option ScalarRead
  | gap, pos, [] => some ⟨[], gap.any Gap.isLines, pos, []⟩
  | gap, pos, '\r' :: '\n' :: s =>
    readPlain? flow indent (some ((gap.getD .empty).addBreak '\n')) (pos.newline 2) s
  | gap, pos, c :: s =>
    if isBreak c then
      readPlain? flow indent (some ((gap.getD .empty).addBreak c)) (pos.newline 1) s
    else if isSpace c then
      if gap.any Gap.isLines && pos.column < indent && c == '\t' then none
      else readPlain? flow indent (some ((gap.getD .empty).addBlank c)) (pos.right 1) s
    else
      let stop : ScalarRead := ⟨[], gap.any Gap.isLines, pos, c :: s⟩
      if gap.isSome && ((!flow && pos.column < indent) ||
          (pos.column == 0 && atDocumentMarker (c :: s)) || c == '#') then
        some stop
      else if flow && c == ':' && s.head?.any (fun d => isFlowIndicator d || d == '?') then none
      else if (c == ':' && atGap s) || (flow && isFlowIndicator c) then some stop
      else
        (readPlain? flow indent none (pos.right 1) s).map
          (ScalarRead.cons ((gap.getD .empty).text ++ [c]))

/-! ### Quoted scalars -/

/-- The character that a one-letter escape stands for. -/
def escaped? (c : Char) : Option Char :=
  match c with
  | '0' => some '\x00'
  | 'a' => some '\x07'
  | 'b' => some '\x08'
  | 't' => some '\t'
  | '\t' => some '\t'
  | 'n' => some '\n'
  | 'v' => some '\x0b'
  | 'f' => some '\x0c'
  | 'r' => some '\r'
  | 'e' => some '\x1b'
  | ' ' => some ' '
  | '"' => some '"'
  | '/' => some '/'
  | '\\' => some '\\'
  | 'N' => some '\u0085'
  | '_' => some '\u00a0'
  | 'L' => some '\u2028'
  | 'P' => some '\u2029'
  | _ => none

/-- The character whose code point is spelled by hexadecimal digits. -/
def escapedCode? (ds : Text) : Option Char :=
  let n := Text.valueOf 16 ds
  if ds.all (Text.isDigitOf 16) && (n < 0xD800 || (0xDFFF < n && n ≤ 0x10FFFF)) then
    some (Char.ofNat n)
  else none

/-- Read an escape, given the position of its backslash and what follows that.  A line break that is
escaped stands for no character. -/
def readEscape? (pos : Position) : Text → Option (Option Char × Position × Text)
  | [] => none
  | '\r' :: '\n' :: s => some (none, (pos.right 1).newline 2, s)
  | 'x' :: a :: b :: s => (escapedCode? [a, b]).map fun e => (some e, pos.right 4, s)
  | 'u' :: a :: b :: d :: f :: s =>
    (escapedCode? [a, b, d, f]).map fun e => (some e, pos.right 6, s)
  | 'U' :: a :: b :: d :: f :: g :: h :: i :: j :: s =>
    (escapedCode? [a, b, d, f, g, h, i, j]).map fun e => (some e, pos.right 10, s)
  | e :: s =>
    if isBreak e then some (none, (pos.right 1).newline 1, s)
    else (escaped? e).map fun e => (some e, pos.right 2, s)

theorem length_of_readEscape? {pos pos' : Position} {s r : Text} {c : Option Char}
    (h : readEscape? pos s = some (c, pos', r)) : r.length < s.length := by
  unfold readEscape? at h
  split at h
  case h_1 => cases h
  case h_2 => cases h; simp only [List.length_cons]; omega
  case h_6 =>
    split at h
    · cases h; simp
    · obtain ⟨e, -, he⟩ := Option.map_eq_some_iff.1 h
      cases he; simp
  all_goals
    obtain ⟨e, -, he⟩ := Option.map_eq_some_iff.1 h
    cases he; simp only [List.length_cons]; omega

/-- Read the inside of a quoted scalar up to its closing quote. -/
def readQuoted? (single : Bool) (gap : Option Gap) (pos : Position) :
    Text → Option ScalarRead
  | [] => none
  | '\r' :: '\n' :: s =>
    readQuoted? single (some ((gap.getD .empty).addBreak '\n')) (pos.newline 2) s
  | c :: s =>
    if isBreak c then
      readQuoted? single (some ((gap.getD .empty).addBreak c)) (pos.newline 1) s
    else if isSpace c then
      readQuoted? single (some ((gap.getD .empty).addBlank c)) (pos.right 1) s
    else if gap.isSome && pos.column == 0 && atDocumentMarker (c :: s) then none
    else
      let before := (gap.getD .empty).text
      if single && c == '\'' then
        if s.head? == some '\'' then
          (readQuoted? single none (pos.right 2) s.tail).map (ScalarRead.cons (before ++ ['\'']))
        else some ⟨before, false, pos.right 1, s⟩
      else if !single && c == '"' then some ⟨before, false, pos.right 1, s⟩
      else if !single && c == '\\' then
        match h : readEscape? pos s with
        | none => none
        | some (none, pos', r) =>
          have := length_of_readEscape? h
          (readQuoted? single (some (.lines none [])) pos' r).map (ScalarRead.cons before)
        | some (some e, pos', r) =>
          have := length_of_readEscape? h
          (readQuoted? single none pos' r).map (ScalarRead.cons (before ++ [e]))
      else (readQuoted? single none (pos.right 1) s).map (ScalarRead.cons (before ++ [c]))
termination_by s => s.length
decreasing_by all_goals simp_all <;> omega

/-! ### Block scalars -/

/-- What becomes of the line breaks at the end of a block scalar. -/
inductive Chomping where
  | strip
  | clip
  | keep
deriving DecidableEq, Repr

/-- The indicators of a block scalar after its first character: chomping and indentation in either
order. -/
def readHeader? (pos : Position) (s : Text) : Option (Chomping × Nat × Position × Text) :=
  let chomping? (c : Char) : Option Chomping :=
    if c == '+' then some .keep else if c == '-' then some .strip else none
  match s with
  | [] => some (.clip, 0, pos, [])
  | c :: r =>
    match chomping? c with
    | some chomping =>
      match r with
      | d :: r' =>
        if d == '0' then none
        else if d.isDigit then some (chomping, Text.digitValue d, pos.right 2, r')
        else some (chomping, 0, pos.right 1, r)
      | [] => some (chomping, 0, pos.right 1, r)
    | none =>
      if c == '0' then none
      else if c.isDigit then
        match r with
        | d :: r' =>
          match chomping? d with
          | some chomping => some (chomping, Text.digitValue c, pos.right 2, r')
          | none => some (.clip, Text.digitValue c, pos.right 1, r)
        | [] => some (.clip, Text.digitValue c, pos.right 1, r)
      else some (.clip, 0, pos, s)

/-- Skip blanks and a comment; the line must end there. -/
def readLineEnd? : Bool → Position → Text → Option (Position × Text)
  | _, pos, [] => some (pos, [])
  | _, pos, '\r' :: '\n' :: s => some (pos.newline 2, s)
  | comment, pos, c :: s =>
    if isBreak c then some (pos.newline 1, s)
    else if comment || isSpace c then readLineEnd? comment (pos.right 1) s
    else if c == '#' then readLineEnd? true (pos.right 1) s
    else none

/-- Skip the indentation and the empty lines before a block scalar's text.  `limit` is the
indentation if it is known.  Returns the line breaks and the largest column that was reached. -/
def readIndentation? (limit : Option Nat) :
    Nat → Position → Text → Option (Text × Nat × Position × Text)
  | deepest, pos, [] => some ([], max deepest pos.column, pos, [])
  | deepest, pos, '\r' :: '\n' :: s =>
    (readIndentation? limit (max deepest pos.column) (pos.newline 2) s).map
      fun (breaks, rest) => ('\n' :: breaks, rest)
  | deepest, pos, c :: s =>
    let inside := limit.all (pos.column < ·)
    if c == ' ' && inside then readIndentation? limit deepest (pos.right 1) s
    else if c == '\t' && inside then none
    else if isBreak c then
      (readIndentation? limit (max deepest pos.column) (pos.newline 1) s).map
        fun (breaks, rest) => (foldBreak c :: breaks, rest)
    else some ([], max deepest pos.column, pos, c :: s)

/-- A block scalar's text, and the line breaks at its end: the one that ends the last line, if any,
and those after it. -/
structure BlockRead where
  text : Text
  last : Option Char
  trailing : Text
  pos : Position
  rest : Text

/-- Where the reader of a block scalar stands: inside a line, or in the indentation of one after
some line breaks.  Either way it is known whether the last line began with a blank. -/
inductive BlockState where
  | line (blank : Bool)
  | indentation (last : Option Char) (trailing : Text) (blank : Bool)

/-- The line breaks between two lines as they stand in the text.  In a folded scalar a single one
between lines that do not begin with a blank becomes a space, and of more the first is dropped. -/
def joinLines (literal : Bool) (last : Option Char) (trailing : Text) (blank nextBlank : Bool) :
    Text :=
  if !literal && last == some '\n' && !blank && !nextBlank then
    if trailing.isEmpty then [' '] else trailing
  else last.toList ++ trailing

/-- Read the lines of a block scalar whose text starts at the column `indent`. -/
def readBlock? (literal : Bool) (indent : Nat) : BlockState → Position → Text → Option BlockRead
  | .line _, pos, [] => some ⟨[], none, [], pos, []⟩
  | .indentation last trailing _, pos, [] => some ⟨[], last, trailing, pos, []⟩
  | .line blank, pos, '\r' :: '\n' :: s =>
    readBlock? literal indent (.indentation (some '\n') [] blank) (pos.newline 2) s
  | .indentation last trailing blank, pos, '\r' :: '\n' :: s =>
    readBlock? literal indent (.indentation last (trailing ++ ['\n']) blank) (pos.newline 2) s
  | .line blank, pos, c :: s =>
    if isBreak c then
      readBlock? literal indent (.indentation (some (foldBreak c)) [] blank) (pos.newline 1) s
    else
      (readBlock? literal indent (.line blank) (pos.right 1) s).map
        fun r => { r with text := c :: r.text }
  | .indentation last trailing blank, pos, c :: s =>
    if c == ' ' && pos.column < indent then
      readBlock? literal indent (.indentation last trailing blank) (pos.right 1) s
    else if c == '\t' && pos.column < indent then none
    else if isBreak c then
      readBlock? literal indent (.indentation last (trailing ++ [foldBreak c]) blank)
        (pos.newline 1) s
    else if pos.column == indent then
      let nextBlank := isSpace c
      (readBlock? literal indent (.line nextBlank) (pos.right 1) s).map
        fun r => { r with text := joinLines literal last trailing blank nextBlank ++ c :: r.text }
    else some ⟨[], last, trailing, pos, c :: s⟩

/-- Read a block scalar after its first character.  `parent` is the indentation of the block
around it. -/
def readBlockScalar? (literal : Bool) (parent : Int) (pos : Position) (s : Text) :
    Option ScalarRead := do
  let (chomping, increment, pos, s) ← readHeader? pos s
  let (pos, s) ← readLineEnd? false pos s
  let base := max parent 0
  let given := if increment = 0 then none else some (base.toNat + increment)
  let (breaks, deepest, pos, s) ← readIndentation? given 0 pos s
  let indent := given.getD (max (max deepest (parent + 1).toNat) 1)
  let r ← readBlock? literal indent (.indentation none breaks false) pos s
  let tail :=
    match chomping with
    | .strip => []
    | .clip => r.last.toList
    | .keep => r.last.toList ++ r.trailing
  some ⟨r.text ++ tail, false, r.pos, r.rest⟩

end RuleSets.Yaml
