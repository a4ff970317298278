import RuleSets.Utility.Files
import RuleSets.Utility.Regex

/-!
# Searching

Lines that match expressions.
-/

namespace RuleSets.Utility.Tool

/-- How lines are looked for and shown. -/
structure GrepMode where
  expression : Regex
  isInverted : Bool
  counts : Bool
  listsMatching : Bool
  listsOthers : Bool
  numbers : Bool
  isQuiet : Bool
  onlyMatches : Bool
  most? : Option Nat
  before : Nat
  after : Nat
  hasContext : Bool
  isText : Bool
  ending : Char

/-- The state of a search in a file. -/
structure GrepState where
  line : Nat
  found : Nat
  /-- The lines just before, the latest first, that have not been shown. -/
  recent : List (Nat × Text)
  /-- How many of the next lines are shown as context. -/
  following : Nat
  /-- The last line that was shown. -/
  lastShown? : Option Nat
  isBinary : Bool

/-- Show a line. -/
def showLine (m : GrepMode) (name? : Option Text) (number : Nat) (mark : Char) (t : Text) :
    Tool Unit := do
  let lead := (name?.elim [] (· ++ [mark])) ++
    (if m.numbers then Text.decimal number ++ [mark] else [])
  print (lead ++ t ++ [m.ending])

/-- Look at a line, and say whether to go on. -/
def grepLine (m : GrepMode) (name? : Option Text) (s : GrepState) (l : Line) :
    Tool (GrepState × Bool) := do
  let number := s.line + 1
  let isHit := m.expression.isIn l.text != m.isInverted
  let s := { s with line := number, isBinary := s.isBinary || l.text.contains '\x00' }
  let isSilent := m.counts || m.listsMatching || m.listsOthers || m.isQuiet
  if isHit then
    let s := { s with found := s.found + 1 }
    let isEnough := m.most?.any (· ≤ s.found)
    if m.isQuiet || m.listsMatching || m.listsOthers then return (s, false)
    else if m.counts then return (s, !isEnough)
    else if s.isBinary && !m.isText then return (s, false)
    else
      if m.onlyMatches then
        if !m.isInverted then
          let text := l.text.toArray
          for f in m.expression.findAll text do
            if f.start < f.stop then
              showLine m name? number ':' (text.extract f.start f.stop).toList
      else
        let gap := match s.recent.getLast? with | some (k, _) => k | none => number
        if m.hasContext && s.lastShown?.any (· + 1 < gap) then print "--\n".toList
        for (k, t) in s.recent.reverse do showLine m name? k '-' t
        showLine m name? number ':' l.text
      let s := { s with recent := [], following := m.after, lastShown? := some number }
      if isEnough && m.after = 0 then return (s, false) else return (s, true)
  else if isSilent || m.onlyMatches then return (s, true)
  else if 0 < s.following then
    if m.most?.any (· ≤ s.found) && m.after = 0 then return (s, false)
    else
      showLine m name? number '-' l.text
      let s := { s with following := s.following - 1, lastShown? := some number }
      return (s, !(m.most?.any (· ≤ s.found) && s.following = 0))
  else if m.most?.any (· ≤ s.found) then return (s, false)
  else return ({ s with recent := ((number, l.text) :: s.recent).take m.before }, true)

/-- The files to look into: those below directories, if that is asked for. -/
def grepFiles (a : Arguments) : Tool (List Text) := do
  let isRecursive := a.has 'r' || a.has 'R'
  let words :=
    if a.operands.isEmpty then (if isRecursive then [['.']] else [['-']]) else a.operands
  let wanted (path : Text) : Bool :=
    let named (c : Char) : List Text := (a.options.filter (·.1 == c)).map (·.2)
    let fits (p : Text) : Bool := simpleMatch (p.length + path.length + 2) p (lastName path)
    ((named '1').isEmpty || (named '1').any fits) && !(named '0').any fits
  if !isRecursive then return words
  else
    let found ← words.mapM fun word => do
      if ← isDirectory word then
        let below ← treePaths deepestTree word
        let files ← below.filterM fun p => do return !(← isDirectory p)
        let files := if a.operands.isEmpty then files.map (·.drop 2) else files
        return files.filter wanted
      else return [word]
    return found.flatten
where
  /-- Whether a pattern with stars and question marks matches a text. -/
  simpleMatch : Nat → Text → Text → Bool
    | _, [], t => t.isEmpty
    | 0, _, _ => false
    | n + 1, '*' :: p, t =>
      simpleMatch n p t || (match t with | [] => false | _ :: t => simpleMatch n ('*' :: p) t)
    | n + 1, '?' :: p, _ :: t => simpleMatch n p t
    | n + 1, c :: p, d :: t => c == d && simpleMatch n p t
    | _, _ :: _, [] => false

/-- An operand as it is named with lines. -/
def shownName (word : Text) : Text := if word == ['-'] then "(standard input)".toList else word

/-- Complain about how `grep` was called, and end. -/
def grepUsage {α : Type} : Tool α := do
  let name := (← get).name
  report ("Usage: ".toList ++ name ++ " [OPTION]... PATTERNS [FILE]...".toList)
  report ("Try '".toList ++ name ++ " --help' for more information.".toList)
  quit 2

/-- Print lines that match. -/
def grepWith (kind? : Option Char) (all : List Text) : Tool Unit := do
  let all := all.map fun w =>
    match w with
    | '-' :: c :: rest => if (c :: rest).all Char.isDigit then "-C".toList ++ c :: rest else w
    | w => w
  let a ← arguments 2 false "EFGPivclLnoqswxrRhHe:f:m:A:B:C:azbTUuyZ" [long "extended-regexp" 'E' .nothing,
    long "fixed-strings" 'F' .nothing, long "basic-regexp" 'G' .nothing, long "ignore-case" 'i' .nothing,
    long "invert-match" 'v' .nothing, long "count" 'c' .nothing, long "files-with-matches" 'l' .nothing,
    long "files-without-match" 'L' .nothing, long "line-number" 'n' .nothing,
    long "only-matching" 'o' .nothing, long "quiet" 'q' .nothing, long "silent" 'q' .nothing,
    long "no-messages" 's' .nothing, long "word-regexp" 'w' .nothing, long "line-regexp" 'x' .nothing,
    long "recursive" 'r' .nothing, long "no-filename" 'h' .nothing, long "with-filename" 'H' .nothing,
    long "regexp" 'e' .value, long "file" 'f' .value, long "max-count" 'm' .value,
    long "after-context" 'A' .value, long "before-context" 'B' .value, long "context" 'C' .value,
    long "text" 'a' .nothing, long "null-data" 'z' .nothing, long "include" '1' .value,
    long "exclude" '0' .value, long "color" 'k' .perhaps, long "colour" 'k' .perhaps,
    long "perl-regexp" 'P' .nothing] all
  modify ({ · with lossStatus := 2 })
  let given ← (a.options.filter fun o => o.1 == 'e' || o.1 == 'f').mapM fun (c, value) => do
    if c == 'e' then return Text.splitBy (· == '\n') value
    else
      match ← openInput value with
      | .error e => die 2 (value ++ ": ".toList ++ reason e)
      | .ok fd =>
        let (t, _) ← readAll fd
        closeInput fd
        return linesOf '\n' t
  let (patterns, a) ←
    if a.has 'e' || a.has 'f' then pure (given.flatten, a)
    else
      match a.operands with
      | [] => grepUsage
      | p :: rest => pure (Text.splitBy (· == '\n') p, { a with operands := rest })
  let number? (c : Char) : Tool (Option Nat) := do
    match a.value? c with
    | none => return none
    | some t =>
      if !t.isEmpty && t.all Char.isDigit then return some (Text.valueOf 10 t)
      else if c == 'm' then die 2 "invalid max count".toList
      else die 2 (t ++ ": invalid context length argument".toList)
  let kind := (a.last? "EFGP").getD (kind?.getD 'G')
  let d : Regex.Dialect := ⟨kind == 'E' || kind == 'P', a.has 'i' || a.has 'y'⟩
  let expressions ← patterns.mapM fun p => do
    if kind == 'F' then return Regex.literal d p
    else
      match Regex.parse d p with
      | .ok r => return r
      | .error e => die 2 e.toList
  let any : Regex :=
    match expressions with
    | [] => .one 0
    | r :: rs => rs.foldl Regex.either r
  let any := if a.has 'w' then .seq (.edge .afterOther) (.seq any (.edge .beforeOther)) else any
  let any := if a.has 'x' then .seq (.edge .lineStart) (.seq any (.edge .lineEnd)) else any
  let both ← number? 'C'
  let before ← number? 'B'
  let after ← number? 'A'
  let m : GrepMode := {
    expression := any, isInverted := a.has 'v', counts := a.has 'c', listsMatching := a.has 'l'
    listsOthers := a.has 'L', numbers := a.has 'n', isQuiet := a.has 'q', onlyMatches := a.has 'o'
    most? := ← number? 'm', before := before.getD (both.getD 0), after := after.getD (both.getD 0)
    hasContext := before.isSome || after.isSome || both.isSome, isText := a.has 'a'
    ending := if a.has 'z' then '\x00' else '\n' }
  let files ← grepFiles a
  let isNamed :=
    match a.last? "hH" with
    | some 'h' => false
    | some _ => true
    | none => 1 < a.operands.length || ((a.has 'r' || a.has 'R') &&
        (a.operands.isEmpty || files != a.operands))
  let mut hasFound := false
  let mut hasFailed := false
  let complain (word : Text) (e : IoError) : Tool Unit := do
    if !a.has 's' then warn (word ++ ": ".toList ++ reason e)
  for word in files do
    match ← openInput word with
    | .error e =>
      complain word e
      hasFailed := true
    | .ok fd =>
      let shown := shownName word
      let name? := if isNamed then some shown else none
      let start : GrepState := ⟨0, 0, [], 0, none, false⟩
      let (s, feed) ←
        if m.most? == some 0 then pure (start, Feed.start fd)
        else eachLine m.ending (grepLine m name?) patience (Feed.start fd) start
      match feed.error? with
      | some e =>
        complain shown e
        hasFailed := true
      | none => pure ()
      if fd = 0 then giveBack 0 feed.buffer.length
      closeInput fd
      if m.counts then
        let lead := name?.elim [] (· ++ [':'])
        if !m.isQuiet then printLine (lead ++ Text.decimal s.found)
      let hasHit := 0 < s.found
      if m.listsMatching && hasHit then printLine shown
      if m.listsOthers && !hasHit then printLine shown
      if hasHit && s.isBinary && !m.isText && !(m.counts || m.listsMatching || m.listsOthers ||
          m.isQuiet) then
        flush
        warn (shown ++ ": binary file matches".toList)
      if hasHit != m.listsOthers then
        hasFound := true
        if m.isQuiet then quit 0
  quit (if hasFailed then (if hasFound && m.isQuiet then 0 else 2) else if hasFound then 0 else 1)

def grep : List Text → Tool Unit := grepWith none
def egrep : List Text → Tool Unit := grepWith (some 'E')
def fgrep : List Text → Tool Unit := grepWith (some 'F')

end RuleSets.Utility.Tool
