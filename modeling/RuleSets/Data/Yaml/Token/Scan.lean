import RuleSets.Data.Yaml.Property
import RuleSets.Data.Yaml.Scalar

/-!
# Scanning tokens

Cutting a stream into tokens.  In block context the indentation decides where collections begin and
end.  A key on one line is recognised only at its colon, so the scanner remembers where one could
have begun and puts the key token there afterwards.  `Token.scan?` is the whole scanner.
-/

namespace RuleSets.Yaml

/-- A place where a key may have begun: how many tokens came before it, its position, and whether
the stream is wrong if no colon follows. -/
structure SimpleKey where
  tokensBefore : Nat
  pos : Position
  required : Bool

/-- The state of the scanner. -/
structure Scanner where
  rest : Text
  pos : Position
  /-- The column of the innermost block collection, or minus one. -/
  indent : Int
  /-- The columns of the collections around it. -/
  outerIndents : List Int
  /-- The possible key of the innermost level. -/
  key : Option SimpleKey
  /-- The possible keys of the levels around the open flow collections. -/
  outerKeys : List (Option SimpleKey)
  keyAllowed : Bool
  /-- The tokens so far, the last one first. -/
  tokens : List Token
  /-- How many tokens there are so far. -/
  count : Nat
  count_eq : count = tokens.length

namespace Scanner

/-- The scanner at the start of a stream. -/
def start (s : Text) : Scanner := ⟨s, .start, -1, [], none, [], true, [], 0, rfl⟩

/-- Whether a flow collection is open. -/
def inFlow (sc : Scanner) : Bool := !sc.outerKeys.isEmpty

/-- Add a token. -/
def push (t : Token) (sc : Scanner) : Scanner :=
  { sc with tokens := t :: sc.tokens, count := sc.count + 1, count_eq := by simp [sc.count_eq] }

/-- Put a token after the first `n`. -/
def insertAfter (n : Nat) (t : Token) (sc : Scanner) : Scanner :=
  let later := sc.count - n
  { sc with
    tokens := sc.tokens.take later ++ t :: sc.tokens.drop later
    count := sc.count + 1
    count_eq := by simp [sc.count_eq]; omega }

/-- Go on at another place. -/
def goto (pos : Position) (rest : Text) (sc : Scanner) : Scanner :=
  { sc with pos := pos, rest := rest }

/-- Pass `n` characters that are no line breaks. -/
def skip (n : Nat) (sc : Scanner) : Scanner := sc.goto (sc.pos.right n) (sc.rest.drop n)

/-! ### Possible keys -/

/-- Whether a possible key is on an earlier line or too far back. -/
def isStale (pos : Position) (k : SimpleKey) : Bool :=
  k.pos.line < pos.line || k.pos.index + 1024 < pos.index

/-- Forget a possible key if it is stale; a required one must not be. -/
def dropStale? (pos : Position) : Option SimpleKey → Option (Option SimpleKey)
  | none => some none
  | some k => if isStale pos k then (if k.required then none else some none) else some (some k)

/-- Forget the stale keys. -/
def dropStaleKeys? (sc : Scanner) : Option Scanner := do
  let key ← dropStale? sc.pos sc.key
  let outerKeys ← sc.outerKeys.mapM (dropStale? sc.pos)
  some { sc with key := key, outerKeys := outerKeys }

/-- Forget the possible key of this level; it must not be required. -/
def dropKey? (sc : Scanner) : Option Scanner :=
  if sc.key.any (·.required) then none else some { sc with key := none }

/-- Remember that a key may begin here. -/
def saveKey? (sc : Scanner) : Option Scanner :=
  if sc.keyAllowed then
    sc.dropKey?.map fun sc' =>
      { sc' with
        key := some ⟨sc.count, sc.pos, !sc.inFlow && sc.indent == (sc.pos.column : Int)⟩ }
  else some sc

/-! ### Indentation -/

/-- Open a block collection at a column if it is further right than the current one.  Its token
comes after the first `n`. -/
def openBlock (column : Nat) (n : Nat) (t : Token) (sc : Scanner) : Scanner :=
  if !sc.inFlow && sc.indent < (column : Int) then
    { sc with indent := column, outerIndents := sc.indent :: sc.outerIndents }.insertAfter n t
  else sc

/-- Close the innermost of some block collections while they are further right than a column. -/
def closeInner (column : Int) : List Int → Scanner → Scanner
  | [], sc => sc
  | outer :: rest, sc =>
    if column < sc.indent then
      closeInner column rest ({ sc with indent := outer, outerIndents := rest }.push .blockEnd)
    else sc

/-- Close the block collections further right than a column. -/
def closeBlocks (column : Int) (sc : Scanner) : Scanner :=
  if sc.inFlow then sc else closeInner column sc.outerIndents sc

/-! ### Between tokens -/

/-- Skip blanks, comments and line breaks.  A line break allows a key in block context; a tab may
stand only where none can begin.  One byte order mark may start a line. -/
def skipGap (flow : Bool) : Bool → Bool → Position → Text → Bool × Position × Text
  | keyAllowed, _, pos, [] => (keyAllowed, pos, [])
  | keyAllowed, _, pos, '\r' :: '\n' :: s =>
    skipGap flow (keyAllowed || !flow) false (pos.newline 2) s
  | keyAllowed, comment, pos, c :: s =>
    if isBreak c then skipGap flow (keyAllowed || !flow) false (pos.newline 1) s
    else if comment || c == ' ' || (c == '\t' && (flow || !keyAllowed)) ||
        (c == '\ufeff' && pos.column == 0) then
      skipGap flow keyAllowed comment (pos.right 1) s
    else if c == '#' then skipGap flow keyAllowed true (pos.right 1) s
    else (keyAllowed, pos, c :: s)

/-- Go to the next token. -/
def toToken (sc : Scanner) : Scanner :=
  let (keyAllowed, pos, rest) := skipGap sc.inFlow sc.keyAllowed false sc.pos sc.rest
  { sc with keyAllowed := keyAllowed, pos := pos, rest := rest }

/-! ### Tokens -/

/-- A directive. -/
def directive? (sc : Scanner) : Option Scanner := do
  let sc ← (sc.closeBlocks (-1)).dropKey?
  let (t, r) ← readDirective? (sc.rest.drop 1)
  let pos := sc.pos.right (sc.rest.length - r.length)
  let (pos, r) ← readLineEnd? false pos r
  some ({ sc with keyAllowed := false }.push t |>.goto pos r)

/-- A document marker. -/
def documentMarker? (t : Token) (sc : Scanner) : Option Scanner := do
  let sc ← (sc.closeBlocks (-1)).dropKey?
  some ({ sc with keyAllowed := false }.push t |>.skip 3)

/-- The start of a flow collection, which may itself be a key. -/
def flowStart? (t : Token) (sc : Scanner) : Option Scanner := do
  let sc ← sc.saveKey?
  some ({ sc with key := none, outerKeys := sc.key :: sc.outerKeys, keyAllowed := true }.push t
    |>.skip 1)

/-- The end of a flow collection. -/
def flowEnd? (t : Token) (sc : Scanner) : Option Scanner := do
  let sc ← sc.dropKey?
  let sc :=
    match sc.outerKeys with
    | [] => sc
    | key :: outerKeys => { sc with key := key, outerKeys := outerKeys }
  some ({ sc with keyAllowed := false }.push t |>.skip 1)

/-- The comma of a flow collection. -/
def flowEntry? (sc : Scanner) : Option Scanner := do
  let sc ← sc.dropKey?
  some ({ sc with keyAllowed := true }.push .flowEntry |>.skip 1)

/-- The dash of a block sequence. -/
def blockEntry? (sc : Scanner) : Option Scanner := do
  if !sc.inFlow && !sc.keyAllowed then none
  else
    let sc ← (sc.openBlock sc.pos.column sc.count .blockSequenceStart).dropKey?
    some ({ sc with keyAllowed := true }.push .blockEntry |>.skip 1)

/-- The question mark before a key. -/
def keyIndicator? (sc : Scanner) : Option Scanner := do
  if !sc.inFlow && !sc.keyAllowed then none
  else
    let sc ← (sc.openBlock sc.pos.column sc.count .blockMappingStart).dropKey?
    some ({ sc with keyAllowed := !sc.inFlow }.push .key |>.skip 1)

/-- The colon before a value.  After a possible key it makes that a key. -/
def valueIndicator? (sc : Scanner) : Option Scanner :=
  match sc.key with
  | some k =>
    let sc :=
      (sc.insertAfter k.tokensBefore .key).openBlock k.pos.column k.tokensBefore .blockMappingStart
    some ({ sc with key := none, keyAllowed := false }.push .value |>.skip 1)
  | none =>
    if !sc.inFlow && !sc.keyAllowed then none
    else
      let sc := sc.openBlock sc.pos.column sc.count .blockMappingStart
      some ({ sc with keyAllowed := !sc.inFlow }.push .value |>.skip 1)

/-- An anchor or an alias. -/
def name? (t : Text → Token) (sc : Scanner) : Option Scanner := do
  let sc ← sc.saveKey?
  let (name, r) ← readName? (sc.rest.drop 1)
  some ({ sc with keyAllowed := false }.push (t name) |>.skip (sc.rest.length - r.length))

/-- A tag. -/
def tag? (sc : Scanner) : Option Scanner := do
  let sc ← sc.saveKey?
  let (handle, rest, r) ← readTag? sc.rest
  if atTagEnd sc.inFlow r then
    some ({ sc with keyAllowed := false }.push (.tag handle rest)
      |>.skip (sc.rest.length - r.length))
  else none

/-- A block scalar. -/
def blockScalar? (literal : Bool) (sc : Scanner) : Option Scanner := do
  let sc ← sc.dropKey?
  let r ← readBlockScalar? literal sc.indent (sc.pos.right 1) (sc.rest.drop 1)
  some ({ sc with keyAllowed := true }.push (.scalar false r.text) |>.goto r.pos r.rest)

/-- A quoted scalar. -/
def quoted? (single : Bool) (sc : Scanner) : Option Scanner := do
  let sc ← sc.saveKey?
  let r ← readQuoted? single none (sc.pos.right 1) (sc.rest.drop 1)
  some ({ sc with keyAllowed := false }.push (.scalar false r.text) |>.goto r.pos r.rest)

/-- A plain scalar.  A key may follow if it ended in a line break. -/
def plain? (sc : Scanner) : Option Scanner := do
  let sc ← sc.saveKey?
  let r ← readPlain? sc.inFlow (sc.indent + 1).toNat none sc.pos sc.rest
  some ({ sc with keyAllowed := r.endsInLines }.push (.scalar true r.text) |>.goto r.pos r.rest)

/-- Whether a plain scalar may start with `c` before `s`. -/
def startsPlain (flow : Bool) (c : Char) (s : Text) : Bool :=
  if c == '-' then !s.head?.any isSpace
  else if c == '?' || c == ':' then !flow && !atGap s
  else !isGap c && !isIndicator c

/-- The token that starts here, where no gap does. -/
def token? (c : Char) (s : Text) (sc : Scanner) : Option Scanner :=
  if sc.pos.column == 0 && c == '%' then sc.directive?
  else if sc.pos.column == 0 && atMarker '-' (c :: s) then sc.documentMarker? .documentStart
  else if sc.pos.column == 0 && atMarker '.' (c :: s) then sc.documentMarker? .documentEnd
  else if c == '[' then sc.flowStart? .flowSequenceStart
  else if c == '{' then sc.flowStart? .flowMappingStart
  else if c == ']' then sc.flowEnd? .flowSequenceEnd
  else if c == '}' then sc.flowEnd? .flowMappingEnd
  else if c == ',' then sc.flowEntry?
  else if c == '-' && atGap s then sc.blockEntry?
  else if c == '?' && (sc.inFlow || atGap s) then sc.keyIndicator?
  else if c == ':' && (sc.inFlow || atGap s) then sc.valueIndicator?
  else if c == '*' then sc.name? .reference
  else if c == '&' then sc.name? .anchor
  else if c == '!' then sc.tag?
  else if c == '|' && !sc.inFlow then sc.blockScalar? true
  else if c == '>' && !sc.inFlow then sc.blockScalar? false
  else if c == '\'' then sc.quoted? true
  else if c == '"' then sc.quoted? false
  else if startsPlain sc.inFlow c s then sc.plain?
  else none

/-- The end of the stream closes every block; no required key may be left. -/
def finish? (sc : Scanner) : Option (List Token) :=
  (sc.closeBlocks (-1)).dropKey?.map fun sc => sc.tokens.reverse

/-- Scan tokens to the end of the stream, at most `fuel` of them. -/
def run? : Nat → Scanner → Option (List Token)
  | 0, _ => none
  | fuel + 1, sc =>
    match sc.toToken.dropStaleKeys? with
    | none => none
    | some sc =>
      let sc := sc.closeBlocks sc.pos.column
      match sc.rest with
      | [] => sc.finish?
      | c :: s => (sc.token? c s).bind (run? fuel)

end Scanner

/-- The tokens of a stream.  Every token takes a character, which bounds their number. -/
def Token.scan? (s : Text) : Option (List Token) :=
  if s.all isReadable then (Scanner.start s).run? (s.length + 1) else none

end RuleSets.Yaml
