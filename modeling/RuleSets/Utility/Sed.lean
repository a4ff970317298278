import RuleSets.Utility.Files
import RuleSets.Utility.Regex

/-!
# Editing streams

Scripts that edit lines: what they say, how they are read, and how they are carried out on every line
in turn.
-/

namespace RuleSets.Utility.Sed

/-! ### Scripts -/

/-- What selects a line. -/
inductive Address where
  | line (n : Nat)
  | last
  | every (first step : Nat)
  /-- A match; without an expression that of the last one. -/
  | pattern (r? : Option Regex)

/-- Where a range of lines ends. -/
inductive RangeEnd where
  | at (a : Address)
  | after (n : Nat)
  | multiple (n : Nat)

/-- The lines to which a command applies. -/
structure Selector where
  first? : Option Address
  last? : Option RangeEnd
  isNegated : Bool

/-- A part of what is put in for a match. -/
inductive Part where
  | text (t : Text)
  | group (n : Nat)
  /-- A change of case: `U`, `L`, `u`, `l`, or `E` for its end. -/
  | casing (c : Char)

/-- A substitution. -/
structure Substitution where
  expression? : Option Regex
  replacement : List Part
  isGlobal : Bool
  number : Nat
  prints : Bool
  goal? : Option Text

/-- A command. -/
inductive Action where
  /-- What follows applies up to the instruction with a number. -/
  | block (stop : Nat)
  | nothing
  | substitute (s : Substitution)
  | substituteEach (pairs : List (Char × Char))
  | delete
  | deleteFirst
  | print
  | printFirst
  | next
  | appendNext
  | quit (code : Nat) (prints : Bool)
  | append (t : Text)
  | insert (t : Text)
  | change (t : Text)
  | number
  | list (width? : Option Nat)
  | keep (appends : Bool)
  | recall (appends : Bool)
  | exchange
  | branch (label : Text)
  | branchIf (substituted : Bool) (label : Text)
  | label (name : Text)
  | readFile (path : Text)
  | writeFile (path : Text) (onlyFirst : Bool)
  | fileName
  | empty

/-- A command and the lines to which it applies. -/
structure Instruction where
  selector : Selector
  action : Action

/-! ### Reading -/

/-- A mistake in a script, and how much had been read. -/
structure Mistake where
  position : Nat
  text : Text

/-- A script that is being read. -/
structure Source where
  rest : Text
  position : Nat
  isExtended : Bool
  instructions : Array Instruction
  /-- The blocks that are open. -/
  blocks : List Nat

/-- A piece of a reader. -/
abbrev Reading := StateT Source (Except Mistake)

namespace Reading

/-- Complain. -/
def fail {α : Type} (t : String) : Reading α := do throw ⟨(← get).position, t.toList⟩

/-- Complain about the script as a whole. -/
def failAt {α : Type} (position : Nat) (t : Text) : Reading α := throw ⟨position, t⟩

/-- Take a character. -/
def next? : Reading (Option Char) := do
  let s ← get
  match s.rest with
  | [] => return none
  | c :: rest =>
    set { s with rest := rest, position := s.position + 1 }
    return some c

/-- Pass characters. -/
def skip (n : Nat) : Reading Unit :=
  modify fun s => { s with rest := s.rest.drop n, position := s.position + n }

/-- Pass characters while they satisfy a condition. -/
def takeWhile (p : Char → Bool) : Reading Text := do
  let t := (← get).rest.takeWhile p
  skip t.length
  return t

/-- Whether a character is a blank. -/
def isGap (c : Char) : Bool := c == ' ' || c == '\t'

/-- Pass blanks. -/
def skipGaps : Reading Unit := do let _ ← takeWhile isGap

/-- The text up to a delimiter that is not escaped; escaped delimiters lose their backslash, and
newlines are spelled out.  Nothing, if there is no delimiter. -/
def delimited (delimiter : Char) (isExpression : Bool) : Nat → Bool → Text → Reading (Option Text)
  | 0, _, _ => return none
  | n + 1, inBrackets, acc => do
    match ← next? with
    | none => return none
    | some c =>
      if c == delimiter && !inBrackets then return some acc.reverse
      else if c == '\n' && isExpression then return none
      else if c == '\\' then
        match ← next? with
        | none => return none
        | some d =>
          if d == delimiter && !inBrackets then
            delimited delimiter isExpression n inBrackets
              (if isExpression || d != '&' then d :: acc else d :: '\\' :: acc)
          else if d == 'n' && isExpression then
            delimited delimiter isExpression n inBrackets ('\n' :: acc)
          else delimited delimiter isExpression n inBrackets (d :: '\\' :: acc)
      else delimited delimiter isExpression n inBrackets (c :: acc)

/-- Replace escapes that stand for characters in an expression. -/
def withEscapes : Text → Text
  | '\\' :: c :: t =>
    match c with
    | 't' => '\t' :: withEscapes t
    | 'f' => '\x0c' :: withEscapes t
    | 'v' => '\x0b' :: withEscapes t
    | 'a' => '\x07' :: withEscapes t
    | 'r' => '\r' :: withEscapes t
    | c => '\\' :: c :: withEscapes t
  | c :: t => c :: withEscapes t
  | [] => []

/-- Read an expression that has been delimited; an empty one stands for the last one. -/
def expression (t : Text) (ignoresCase : Bool) : Reading (Option Regex) := do
  if t.isEmpty then return none
  else
    match Regex.parse ⟨(← get).isExtended, ignoresCase⟩ (withEscapes t) with
    | .ok r => return some r
    | .error e => fail e

/-- A number, if there is one. -/
def number? : Reading (Option Nat) := do
  let digits ← takeWhile Char.isDigit
  return if digits.isEmpty then none else some (Text.valueOf 10 digits)

/-- An address, if there is one. -/
def address? : Reading (Option Address) := do
  let s ← get
  let pattern (delimiter : Char) : Reading (Option Address) := do
    match ← delimited delimiter true (s.rest.length + 1) false [] with
    | none => fail "unterminated address regex"
    | some t =>
      let flags ← takeWhile fun c => c == 'I' || c == 'M'
      return some (.pattern (← expression t (flags.contains 'I')))
  match s.rest with
  | '$' :: _ =>
    skip 1
    return some .last
  | '/' :: _ =>
    skip 1
    pattern '/'
  | '\\' :: c :: _ =>
    skip 2
    pattern c
  | c :: _ =>
    if c.isDigit then
      let n := (← number?).getD 0
      skipGaps
      if (← get).rest.head? == some '~' then
        skip 1
        skipGaps
        let step := (← number?).getD 0
        return some (if step = 0 then .line n else .every n step)
      else return some (.line n)
    else return none
  | [] => return none

/-- The addresses in front of a command. -/
def selector : Reading Selector := do
  let first? ← address?
  let start := (← get).position
  skipGaps
  let last? : Option RangeEnd ←
    if first?.isSome && (← get).rest.head? == some ',' then do
      skip 1
      skipGaps
      match (← get).rest with
      | '+' :: _ =>
        skip 1
        pure (some (RangeEnd.after ((← number?).getD 0)))
      | '~' :: _ =>
        skip 1
        pure (some (RangeEnd.multiple ((← number?).getD 0)))
      | _ =>
        match ← address? with
        | some a => pure (some (RangeEnd.at a))
        | none => do
          let s ← get
          failAt (s.position + (if s.rest.isEmpty then 0 else 1) |> min (start + 1))
            "unexpected \x60,'".toList
    else pure none
  match first?, last? with
  | some (.line 0), some (.at (.pattern _)) => pure ()
  | some (.line 0), _ =>
    let p := (← get).position
    failAt (p + 1) "invalid usage of line address 0".toList
  | _, _ => pure ()
  skipGaps
  let mut isNegated := false
  if (← get).rest.head? == some '!' then
    skip 1
    isNegated := true
    skipGaps
    if (← get).rest.head? == some '!' then
      skip 1
      fail "multiple \x60!'s"
  return ⟨first?, last?, isNegated⟩

/-- The end of a command: blanks, and then a separator, a closing brace, a comment or the end. -/
def endCommand : Reading Unit := do
  skipGaps
  match (← get).rest with
  | [] => return
  | c :: _ =>
    if c == ';' || c == '\n' then skip 1
    else if c == '}' || c == '#' then return
    else
      skip 1
      fail "extra characters after command"

/-- The text of a command that adds lines. -/
def addedText : Reading Text := do
  skipGaps
  match (← get).rest with
  | [] => fail "expected \\ after \x60a', \x60c' or \x60i'"
  | '\\' :: rest =>
    let gaps := rest.takeWhile isGap
    match rest.drop gaps.length with
    | '\n' :: _ =>
      skip (gaps.length + 2)
      lines ((← get).rest.length + 1) []
    | _ =>
      skip (gaps.length + 1)
      lines ((← get).rest.length + 1) []
  | _ => lines ((← get).rest.length + 1) []
where
  /-- The text up to a newline that is not escaped; backslashes are dropped. -/
  lines : Nat → Text → Reading Text
    | 0, acc => return acc.reverse
    | n + 1, acc => do
      match ← next? with
      | none => return ('\n' :: acc).reverse
      | some '\n' => return ('\n' :: acc).reverse
      | some '\\' =>
        match ← next? with
        | none => return ('\n' :: acc).reverse
        | some c => lines n (c :: acc)
      | some c => lines n (c :: acc)

/-- A label: the text up to the end of the line or a semicolon. -/
def labelName : Reading Text := do
  skipGaps
  let t ← takeWhile fun c => c != '\n' && c != ';'
  let t := (t.reverse.dropWhile isGap).reverse
  if !(← get).rest.isEmpty then skip 1
  return t

/-- The name of a file: the text up to the end of the line. -/
def fileNameText : Reading Text := do
  skipGaps
  let t ← takeWhile (· != '\n')
  if t.isEmpty then fail "missing filename in r/R/w/W commands"
  if !(← get).rest.isEmpty then skip 1
  return t

/-- The byte that digits of a base behind a letter stand for. -/
def coded (base most : Nat) (t : Text) : Option (Char × Text) :=
  let digits := (t.take most).takeWhile (Text.isDigitOf base)
  if digits.isEmpty then none
  else some (Char.ofNat (Text.valueOf base digits % 256), t.drop digits.length)

/-- The parts of a replacement. -/
def parts : Nat → Text → Text → List Part
  | 0, _, acc => [.text acc.reverse]
  | n + 1, t, acc =>
    let flush (p : Part) (rest : Text) : List Part :=
      if acc.isEmpty then p :: parts n rest [] else .text acc.reverse :: p :: parts n rest []
    match t with
    | [] => if acc.isEmpty then [] else [.text acc.reverse]
    | '&' :: rest => flush (.group 0) rest
    | '\\' :: c :: rest =>
      if c.isDigit then flush (.group (Text.digitValue c)) rest
      else if "ULulE".toList.contains c then flush (.casing c) rest
      else
        match c with
        | 'n' => parts n rest ('\n' :: acc)
        | 't' => parts n rest ('\t' :: acc)
        | 'r' => parts n rest ('\r' :: acc)
        | 'f' => parts n rest ('\x0c' :: acc)
        | 'v' => parts n rest ('\x0b' :: acc)
        | 'a' => parts n rest ('\x07' :: acc)
        | 'x' =>
          match coded 16 2 rest with
          | some (d, rest) => parts n rest (d :: acc)
          | none => parts n rest ('x' :: acc)
        | 'o' =>
          match coded 8 3 rest with
          | some (d, rest) => parts n rest (d :: acc)
          | none => parts n rest ('o' :: acc)
        | 'd' =>
          match coded 10 3 rest with
          | some (d, rest) => parts n rest (d :: acc)
          | none => parts n rest ('d' :: acc)
        | c => parts n rest (c :: acc)
    | c :: rest => parts n rest (c :: acc)

/-- The flags behind a substitution. -/
structure Flags where
  isGlobal : Bool
  prints : Bool
  ignoresCase : Bool
  number? : Option Nat
  goal? : Option Text

/-- Read the flags behind a substitution. -/
def flags : Nat → Flags → Reading Flags
  | 0, f => return f
  | n + 1, f => do
    match (← get).rest with
    | [] => return f
    | c :: _ =>
      if c == 'g' then
        skip 1
        if f.isGlobal then fail "multiple \x60g' options to \x60s' command"
        flags n { f with isGlobal := true }
      else if c == 'p' then
        skip 1
        if f.prints then fail "multiple \x60p' options to \x60s' command"
        flags n { f with prints := true }
      else if c == 'i' || c == 'I' then
        skip 1
        flags n { f with ignoresCase := true }
      else if c == 'm' || c == 'M' then
        skip 1
        flags n f
      else if c == 'w' then
        skip 1
        return { f with goal? := some (← fileNameText) }
      else if c.isDigit then
        let start := (← get).position
        let k := (← number?).getD 0
        if k = 0 then
          failAt (start + 1) "number option to \x60s' command may not be zero".toList
        if f.number?.isSome then
          failAt (start + 1) "multiple number options to \x60s' command".toList
        flags n { f with number? := some k }
      else if isGap c then
        skip 1
        flags n f
      else if c == ';' || c == '\n' then
        skip 1
        return f
      else if c == '}' || c == '#' then return f
      else
        skip 1
        fail "unknown option to \x60s'"

/-- Read a substitution behind its letter. -/
def substitution : Reading Action := do
  let unterminated {α : Type} : Reading α := fail "unterminated \x60s' command"
  match ← next? with
  | none => unterminated
  | some delimiter =>
    let size := (← get).rest.length + 1
    match ← delimited delimiter true size false [] with
    | none => unterminated
    | some pattern =>
      match ← delimited delimiter false size false [] with
      | none => unterminated
      | some replacement =>
        let f ← flags size ⟨false, false, false, none, none⟩
        let r? ← expression pattern f.ignoresCase
        let ps := parts (replacement.length + 1) replacement []
        let groups := r?.elim 9 Regex.groupCount
        for p in ps do
          match p with
          | .group k =>
            if groups < k then
              failAt (← get).position ("invalid reference \\".toList ++ Text.decimal k ++
                " on \x60s' command's RHS".toList)
          | _ => pure ()
        return .substitute ⟨r?, ps, f.isGlobal, f.number?.getD 1, f.prints, f.goal?⟩

/-- Read what characters are exchanged for, behind its letter. -/
def pairsOf : Reading Action := do
  let unterminated {α : Type} : Reading α := fail "unterminated \x60y' command"
  match ← next? with
  | none => unterminated
  | some delimiter =>
    let size := (← get).rest.length + 1
    match ← delimited delimiter true size false [] with
    | none => unterminated
    | some first =>
      match ← delimited delimiter true size false [] with
      | none => unterminated
      | some second =>
        let plain (t : Text) : Text := (unescaped t)
        let (a, b) := (plain first, plain second)
        if a.length ≠ b.length then fail "strings for \x60y' command are different lengths"
        endCommand
        return .substituteEach (a.zip b)
where
  unescaped : Text → Text
    | '\\' :: '\\' :: t => '\\' :: unescaped t
    | '\\' :: 't' :: t => '\t' :: unescaped t
    | c :: t => c :: unescaped t
    | [] => []

/-- Add an instruction. -/
def add (s : Selector) (a : Action) : Reading Unit :=
  modify fun src => { src with instructions := src.instructions.push ⟨s, a⟩ }

/-- Read a command behind its addresses. -/
def command (s : Selector) : Reading Unit := do
  let simple (a : Action) : Reading Unit := do
    endCommand
    add s a
  match ← next? with
  | none => fail "missing command"
  | some c =>
    match c with
    | '{' =>
      let src ← get
      set { src with blocks := src.instructions.size :: src.blocks }
      add s (.block 0)
    | '}' =>
      let src ← get
      if s.first?.isSome then fail "\x7d doesn't want any addresses"
      match src.blocks with
      | [] => fail "unexpected \x60\x7d'"
      | start :: blocks =>
        let here := src.instructions.size
        let instructions := src.instructions.modify start fun i => { i with action := .block here }
        set { src with instructions := instructions, blocks := blocks }
        simple .nothing
    | 's' => add s (← substitution)
    | 'y' => add s (← pairsOf)
    | 'd' => simple .delete
    | 'D' => simple .deleteFirst
    | 'p' => simple .print
    | 'P' => simple .printFirst
    | 'n' => simple .next
    | 'N' => simple .appendNext
    | 'q' | 'Q' =>
      skipGaps
      let code := (← number?).getD 0
      simple (.quit code (c == 'q'))
    | 'a' => add s (.append (← addedText))
    | 'i' => add s (.insert (← addedText))
    | 'c' => add s (.change (← addedText))
    | '=' => simple .number
    | 'l' =>
      skipGaps
      let width? ← number?
      simple (.list width?)
    | 'h' => simple (.keep false)
    | 'H' => simple (.keep true)
    | 'g' => simple (.recall false)
    | 'G' => simple (.recall true)
    | 'x' => simple .exchange
    | 'b' => add s (.branch (← labelName))
    | 't' => add s (.branchIf true (← labelName))
    | 'T' => add s (.branchIf false (← labelName))
    | ':' =>
      if s.first?.isSome then fail ": doesn't want any addresses"
      let name ← labelName
      if name.isEmpty then fail "\":\" lacks a label"
      add s (.label name)
    | 'r' | 'R' => add s (.readFile (← fileNameText))
    | 'w' => add s (.writeFile (← fileNameText) false)
    | 'W' => add s (.writeFile (← fileNameText) true)
    | 'F' => simple .fileName
    | 'z' => simple .empty
    | 'v' =>
      let _ ← labelName
      add s .nothing
    | '#' =>
      let _ ← takeWhile (· != '\n')
      if s.first?.isSome then fail "comments don't accept any addresses"
    | c => fail ("unknown command: \x60" ++ String.ofList [c] ++ "'")

/-- Read a script. -/
def script : Nat → Reading Unit
  | 0 => return
  | n + 1 => do
    let _ ← takeWhile fun c => Text.isSpace c || c == ';'
    if (← get).rest.isEmpty then
      if !(← get).blocks.isEmpty then failAt 0 "unmatched \x60\x7b'".toList
    else
      command (← selector)
      script n

end Reading

/-- The instructions of a script. -/
def parse (isExtended : Bool) (t : Text) : Except Mistake (Array Instruction) := do
  let ((), s) ← (Reading.script (t.length + 1)).run ⟨t, 0, isExtended, #[], []⟩
  return s.instructions

/-! ### Carrying out -/

/-- The options of an edit. -/
structure Setting where
  instructions : Array Instruction
  isSilent : Bool
  isExtended : Bool
  isSeparate : Bool
  editsFiles : Bool
  suffix : Text
  ending : Char
  width : Nat

/-- Whether a range of lines has begun, and up to which line it goes if that is known. -/
inductive RangeState where
  | inactive
  | active (last? : Option Nat)
  | closed

/-- The state of an edit. -/
structure State where
  space : Text
  hold : Text
  line : Nat
  /-- Whether the line was ended in the input. -/
  isEnded : Bool
  /-- The files that have not been opened, and the input at hand. -/
  files : List Text
  name : Text
  feed? : Option Tool.Feed
  /-- A line that has been read before its time. -/
  ahead? : Option Tool.Line
  ranges : Array RangeState
  hasSubstituted : Bool
  /-- What is put out at the end of the cycle. -/
  appended : List (Text ⊕ Text)
  lastExpression? : Option Regex
  /-- Whether the last line that was put out lacks its end. -/
  lacksEnd : Bool
  /-- Where lines are put out that go to files, and the file that is edited. -/
  goals : List (Text × Nat)
  edited? : Option (List Text)
  hasFailed : Bool

/-- A piece of an edit. -/
abbrev Editing := StateT State Tool

namespace Editing

/-- Put a text out. -/
def emit (t : Text) : Editing Unit := do
  let s ← get
  let t := if s.lacksEnd then '\n' :: t else t
  match s.edited? with
  | some ts => set { s with edited? := some (t :: ts), lacksEnd := false }
  | none =>
    set { s with lacksEnd := false }
    StateT.lift (Tool.print t)

/-- Put a line out, with its end if the line at hand has one. -/
def emitLine (c : Setting) (t : Text) : Editing Unit := do
  if (← get).isEnded then emit (t ++ [c.ending])
  else
    emit t
    modify ({ · with lacksEnd := true })

/-- Put a text out to a file. -/
def emitTo (path t : Text) : Editing Unit := do
  if path == "/dev/stdout".toList then emit t
  else
    match (← get).goals.find? (·.1 == path) with
    | some (_, fd) =>
      let _ ← StateT.lift (call (.write fd t))
    | none => return

/-- The next line of the input at hand, or of the next file. -/
def fetch (c : Setting) : Nat → Editing (Option Tool.Line)
  | 0 => return none
  | n + 1 => do
    let s ← get
    match s.feed? with
    | some f =>
      let (line?, f) ← StateT.lift (Tool.nextLine c.ending Tool.patience f)
      match line? with
      | some l =>
        set { s with feed? := some f }
        return some l
      | none =>
        match f.error? with
        | some e =>
          let name := if s.name == ['-'] then "stdin".toList else s.name
          StateT.lift (Tool.die 4 ("read error on ".toList ++ name ++ ": ".toList ++ reason e))
        | none => pure ()
        StateT.lift (Tool.closeInput f.descriptor)
        modify ({ · with feed? := none })
        if c.isSeparate then return none else fetch c n
    | none =>
      match s.files with
      | [] => return none
      | word :: rest =>
        set { s with files := rest, name := word }
        match ← StateT.lift (Tool.openInput word) with
        | .ok fd =>
          modify ({ · with feed? := some (Tool.Feed.start fd) })
          fetch c n
        | .error e =>
          StateT.lift (Tool.warn ("can't read ".toList ++ word ++ ": ".toList ++ reason e))
          modify ({ · with hasFailed := true })
          if c.isSeparate then return none else fetch c n

/-- The next line, which stays the next one. -/
def peek? (c : Setting) : Editing (Option Tool.Line) := do
  match (← get).ahead? with
  | some l => return some l
  | none =>
    let l? ← fetch c Tool.patience
    modify ({ · with ahead? := l? })
    return l?

/-- Take the next line. -/
def take? (c : Setting) : Editing (Option Tool.Line) := do
  let l? ← peek? c
  modify fun s => { s with ahead? := none, line := if l?.isSome then s.line + 1 else s.line }
  return l?

/-- The expression to use where one may be left out. -/
def expressionOf (r? : Option Regex) : Editing Regex := do
  match r? with
  | some r =>
    modify ({ · with lastExpression? := some r })
    return r
  | none =>
    match (← get).lastExpression? with
    | some r => return r
    | none =>
      StateT.lift (Tool.die 1
        "-e expression #1, char 0: no previous regular expression".toList)

/-- Whether an address selects the line at hand. -/
def selects (c : Setting) (a : Address) : Editing Bool := do
  match a with
  | .line n => return (← get).line == n
  | .last => return (← peek? c).isNone
  | .every first step =>
    let n := (← get).line
    return first ≤ n && (n - first) % step == 0
  | .pattern r? => return (← expressionOf r?).isIn (← get).space

/-- Whether a command applies to the line at hand, but for a negation. -/
def applies (c : Setting) (k : Nat) (s : Selector) : Editing Bool := do
  let setRange (r : RangeState) : Editing Unit :=
    modify fun st => { st with ranges := st.ranges.setIfInBounds k r }
  match s.first?, s.last? with
  | none, _ => return true
  | some a, none => selects c a
  | some a, some stop =>
    let line := (← get).line
    let isStart : Bool := match a with | .line 0 => true | _ => false
    let begin_ : Editing Bool := do
      if !(← selects c a) then return false
      else
        let goTo (last : Nat) : Editing Bool := do
          if line < last then setRange (.active (some last)) else setRange .closed
          return true
        match stop with
        | .at (.line n) => goTo n
        | .after n => goTo (line + n)
        | .multiple n => goTo (if n = 0 then line else (line + n - 1) / n * n)
        | .at _ =>
          setRange (.active none)
          return true
    match ((← get).ranges[k]?).getD .inactive with
    | .active (some last) =>
      if last ≤ line then setRange .closed
      return line ≤ last
    | .active none =>
      match stop with
      | .at b => if ← selects c b then setRange .closed
      | _ => pure ()
      return true
    | .inactive =>
      if isStart then
        match stop with
        | .at b => if ← selects c b then setRange .closed else setRange (.active none)
        | _ => pure ()
        return true
      else begin_
    | .closed => if isStart then return false else begin_

/-- Put out what is to come at the end of the cycle. -/
def emitAppended (c : Setting) : Editing Unit := do
  let ts := (← get).appended
  modify ({ · with appended := [] })
  for t in ts.reverse do
    match t with
    | .inl t => emit t
    | .inr path =>
      match ← StateT.lift (Tool.openInput (if path == "/dev/stdin".toList then ['-'] else path)) with
      | .error _ => pure ()
      | .ok fd =>
        let (t, _) ← StateT.lift (Tool.readAll fd)
        if !t.isEmpty then emit t
        StateT.lift (Tool.closeInput fd)
  let _ := c

/-- What takes the place of a match. -/
def replacementText (text : Array Char) (f : Regex.Found) (ps : List Part) : Text :=
  let apply (mode : Char) (once? : Option Char) (t : Text) : Text :=
    let t := match mode with
      | 'U' => t.map Char.toUpper
      | 'L' => t.map Char.toLower
      | _ => t
    match once?, t with
    | some 'u', c :: t => c.toUpper :: t
    | some 'l', c :: t => c.toLower :: t
    | _, t => t
  let step (acc : Char × Option Char × List Text) (p : Part) : Char × Option Char × List Text :=
    let (mode, once?, out) := acc
    let put (t : Text) : Char × Option Char × List Text :=
      (mode, if t.isEmpty then once? else none, apply mode once? t :: out)
    match p with
    | .text t => put t
    | .group n => put (f.group text n)
    | .casing c =>
      if c == 'u' || c == 'l' then (mode, some c, out) else (c, once?, out)
  ((ps.foldl step ('E', none, [])).2.2.reverse).flatten

/-- Substitute in the pattern space, and say whether anything was. -/
def substituted (s : Substitution) (r : Regex) (t : Text) : Option Text :=
  let text := t.toArray
  let rec go : Nat → Nat → Nat → Option Nat → List Text → Bool → Option (List Text)
    | 0, _, _, _, out, hit => if hit then some out else none
    | n + 1, first, count, lastStop?, out, hit =>
      let finish : Option (List Text) :=
        if hit then some ((text.extract first text.size).toList :: out) else none
      match r.find? text true first with
      | none => finish
      | some f =>
        let before := (text.extract first f.start).toList
        let step (out : List Text) (hit : Bool) (count : Nat) : Option (List Text) :=
          if f.stop == f.start then
            if f.stop < text.size then
              go n (f.stop + 1) count none ((text.extract f.stop (f.stop + 1)).toList :: out) hit
            else if hit then some out else none
          else go n f.stop count (some f.stop) out hit
        -- An empty match right behind another one does not count.
        if f.stop == f.start && lastStop? == some f.start then step (before :: out) hit count
        else
          let count := count + 1
          if count < s.number then
            step ((text.extract f.start f.stop).toList :: before :: out) hit count
          else
            let out := replacementText text f s.replacement :: before :: out
            if s.isGlobal then step out true count
            else some ((text.extract f.stop text.size).toList :: out)
  (go (text.size + 2) 0 0 none [] false).map fun out => out.reverse.flatten

/-- A line as it is listed, with what cannot be seen spelled out. -/
def listed (width : Nat) (t : Text) : Text :=
  let spelled (c : Char) : Text :=
    match c with
    | '\\' => ['\\', '\\']
    | '\x07' => ['\\', 'a']
    | '\x08' => ['\\', 'b']
    | '\x0c' => ['\\', 'f']
    | '\n' => ['\\', 'n']
    | '\r' => ['\\', 'r']
    | '\t' => ['\\', 't']
    | '\x0b' => ['\\', 'v']
    | c =>
      if Text.isPrint c then [c]
      else
        let digits := Text.numeral 8 c.toNat
        '\\' :: List.replicate (3 - digits.length) '0' ++ digits
  let (out, _) := (t.map spelled).foldl (fun (out, column) piece =>
    if 1 < width && width - 1 < column + piece.length then
      (piece :: ['\\', '\n'] :: out, piece.length)
    else (piece :: out, column + piece.length)) (([] : List Text), 0)
  out.reverse.flatten ++ ['$', '\n']

/-- What becomes of a cycle. -/
inductive Flow where
  /-- The cycle ends, with or without the line being put out. -/
  | done (prints : Bool)
  /-- The cycle begins anew without a new line. -/
  | again
  | quit (code : Nat) (prints : Bool)

/-- The first line of a text. -/
def firstLine (t : Text) : Text := t.takeWhile (· != '\n')

/-- Carry out the instructions from one on. -/
def runFrom (c : Setting) : Nat → Nat → Editing Flow
  | 0, _ => return .done true
  | n + 1, k => do
    if h : k < c.instructions.size then
      let i := c.instructions[k]
      let applied ← applies c k i.selector
      if applied == i.selector.isNegated then
        match i.action with
        | .block stop => runFrom c n (stop + 1)
        | _ => runFrom c n (k + 1)
      else
        let onward : Editing Flow := runFrom c n (k + 1)
        let jump (name : Text) : Editing Flow :=
          if name.isEmpty then return .done true
          else
            match c.instructions.findIdx? fun j =>
              match j.action with | .label l => l == name | _ => false with
            | some j => runFrom c n (j + 1)
            | none => return .done true
        match i.action with
        | .block _ | .nothing | .label _ => onward
        | .substitute s =>
          let r ← expressionOf s.expression?
          match substituted s r (← get).space with
          | none => onward
          | some t =>
            modify ({ · with space := t, hasSubstituted := true })
            if s.prints then emitLine c t
            match s.goal? with
            | some path => emitTo path (t ++ ['\n'])
            | none => pure ()
            onward
        | .substituteEach pairs =>
          modify fun s => { s with space := s.space.map fun x =>
            ((pairs.find? (·.1 == x)).map (·.2)).getD x }
          onward
        | .delete => return .done false
        | .deleteFirst =>
          let t := (← get).space
          if t.contains '\n' then
            modify ({ · with space := t.drop ((firstLine t).length + 1) })
            return .again
          else return .done false
        | .print =>
          emitLine c (← get).space
          onward
        | .printFirst =>
          emit (firstLine (← get).space ++ ['\n'])
          onward
        | .next =>
          if (← peek? c).isNone then return .quit 0 true
          else
            if !c.isSilent then emitLine c (← get).space
            emitAppended c
            match ← take? c with
            | some l => modify ({ · with space := l.text, isEnded := l.isEnded })
            | none => pure ()
            onward
        | .appendNext =>
          if (← peek? c).isNone then return .quit 0 true
          else
            emitAppended c
            match ← take? c with
            | some l =>
              modify fun s => { s with space := s.space ++ '\n' :: l.text, isEnded := l.isEnded }
            | none => pure ()
            onward
        | .quit code prints => return .quit code prints
        | .append t =>
          modify fun s => { s with appended := .inl t :: s.appended }
          onward
        | .insert t =>
          emit t
          onward
        | .change t =>
          let isInside : Bool :=
            match ((← get).ranges[k]?).getD .inactive with
            | .active _ => i.selector.last?.isSome && !i.selector.isNegated
            | _ => false
          if !isInside then emit t
          return .done false
        | .number =>
          emit (Text.decimal (← get).line ++ ['\n'])
          onward
        | .list width? =>
          emit (listed (width?.getD c.width) (← get).space)
          onward
        | .keep appends =>
          modify fun s => { s with hold := if appends then s.hold ++ '\n' :: s.space else s.space }
          onward
        | .recall appends =>
          modify fun s => { s with space := if appends then s.space ++ '\n' :: s.hold else s.hold }
          onward
        | .exchange =>
          modify fun s => { s with space := s.hold, hold := s.space }
          onward
        | .branch name => jump name
        | .branchIf wanted name =>
          let has := (← get).hasSubstituted
          modify ({ · with hasSubstituted := false })
          if has == wanted then jump name else onward
        | .readFile path =>
          modify fun s => { s with appended := .inr path :: s.appended }
          onward
        | .writeFile path onlyFirst =>
          let t := (← get).space
          emitTo path ((if onlyFirst then firstLine t else t) ++ ['\n'])
          onward
        | .fileName =>
          emit ((← get).name ++ ['\n'])
          onward
        | .empty =>
          modify ({ · with space := [] })
          onward
    else return .done true

/-- Go through the lines.  The result is a code to quit with, if there is one. -/
def cycles (c : Setting) : Nat → Bool → Editing (Option Nat)
  | 0, _ => return none
  | n + 1, isAnew => do
    let hasLine ←
      if isAnew then pure true
      else
        match ← take? c with
        | some l =>
          modify ({ · with space := l.text, isEnded := l.isEnded, hasSubstituted := false })
          pure true
        | none => pure false
    if !hasLine then return none
    else
      match ← runFrom c Tool.patience 0 with
      | .done prints =>
        if prints && !c.isSilent then emitLine c (← get).space
        emitAppended c
        cycles c n false
      | .again =>
        emitAppended c
        cycles c n true
      | .quit code prints =>
        if prints && !c.isSilent then emitLine c (← get).space
        emitAppended c
        return some code

/-- Edit a file in its place. -/
def editFile (c : Setting) (path : Text) : Editing (Option Nat) := do
  match ← StateT.lift (call (.facts path)) with
  | .error e =>
    StateT.lift (Tool.warn ("can't read ".toList ++ path ++ ": ".toList ++ reason e))
    modify ({ · with hasFailed := true })
    return none
  | .ok f =>
    if f.kind != .regular then
      StateT.lift (Tool.warn ("couldn't edit ".toList ++ path ++ ": not a regular file".toList))
      modify ({ · with hasFailed := true })
      return none
    else
      modify ({ · with files := [path], line := 0, edited? := some [], ahead? := none, lacksEnd := false })
      let quit? ← cycles c Tool.patience false
      -- What is left of the file after an early end stays as it is.
      let rest ← if quit?.isSome then remaining Tool.patience [] else pure []
      let t := (((← get).edited?.getD []).reverse).flatten ++ rest
      let draft := Tool.inside (Tool.parentName path) ("sed".toList ++ Text.decimal t.length ++
        "Xq7Z".toList)
      if !c.suffix.isEmpty then
        let backup :=
          if c.suffix.contains '*' then
            Tool.inside (Tool.parentName path)
              (c.suffix.flatMap fun x => if x == '*' then Tool.lastName path else [x])
          else path ++ c.suffix
        let _ ← StateT.lift (call (.edit (.link path backup)))
      match ← StateT.lift (call (.openFile draft .output)) with
      | .error e =>
        StateT.lift (Tool.die 4 ("couldn't open temporary file ".toList ++ draft ++ ": ".toList ++
          reason e))
      | .ok fd =>
        let _ ← StateT.lift (call (.write fd t))
        StateT.lift (Tool.closeInput fd)
        if f.isExecutable then
          let _ ← StateT.lift (call (.edit (.setExecutable draft true)))
        let _ ← StateT.lift (call (.edit (.rename draft path)))
        return quit?
where
  remaining : Nat → List Text → Editing Text
    | 0, acc => return acc.reverse.flatten
    | n + 1, acc => do
      match ← take? c with
      | some l => remaining n ((l.text ++ if l.isEnded then [c.ending] else []) :: acc)
      | none => return acc.reverse.flatten

end Editing

/-- The files that a script writes to. -/
def goalsOf (is : Array Instruction) : List Text :=
  (is.toList.filterMap fun i =>
    match i.action with
    | .writeFile path _ => some path
    | .substitute s => s.goal?
    | _ => none).filter (· != "/dev/stdout".toList)

/-- A label that is jumped to and does not exist. -/
def missingLabel? (is : Array Instruction) : Option Text :=
  let labels := is.toList.filterMap fun i => match i.action with | .label l => some l | _ => none
  is.toList.findSome? fun i =>
    match i.action with
    | .branch l | .branchIf _ l => if l.isEmpty || labels.contains l then none else some l
    | _ => none

end Sed

namespace Tool

/-- Edit lines as a script says. -/
def sed (all : List Text) : Tool Unit := do
  let a ← arguments 1 false "nEre:f:i::sl:uz" [long "quiet" 'n' .nothing, long "silent" 'n' .nothing,
    long "regexp-extended" 'E' .nothing, long "expression" 'e' .value, long "file" 'f' .value,
    long "in-place" 'i' .perhaps, long "separate" 's' .nothing, long "line-length" 'l' .value,
    long "null-data" 'z' .nothing, long "unbuffered" 'u' .nothing, long "posix" 'p' .nothing] all
  modify ({ · with lossText := "couldn't flush stdout".toList, lossStatus := 4 })
  let given ← (a.options.filter fun o => o.1 == 'e' || o.1 == 'f').mapM fun (c, value) => do
    if c == 'e' then return value
    else
      match ← openInput value with
      | .error e => die 1 ("couldn't open file ".toList ++ value ++ ": ".toList ++ reason e)
      | .ok fd =>
        let (t, _) ← readAll fd
        closeInput fd
        return Text.joinWith ['\n'] (linesOf '\n' t)
  let (scripts, files) ←
    if a.has 'e' || a.has 'f' then pure (given, a.operands)
    else
      match a.operands with
      | [] =>
        report usage
        quit 1
      | s :: files => pure ([s], files)
  let isExtended := a.has 'E' || a.has 'r'
  let whole := Text.joinWith ['\n'] scripts
  match Sed.parse isExtended whole with
  | .error m =>
    let (number, position) := place scripts m.position 1
    die 1 ("-e expression #".toList ++ Text.decimal number ++ ", char ".toList ++
      Text.decimal position ++ ": ".toList ++ m.text)
  | .ok instructions =>
    match Sed.missingLabel? instructions with
    | some l => die 1 ("can't find label for jump to \x60".toList ++ l ++ ['\''])
    | none => pure ()
    let mut goals := []
    for path in Sed.goalsOf instructions do
      if !goals.any (fun g : Text × Nat => g.1 == path) then
        match ← call (.openFile path .output) with
        | .ok fd => goals := (path, fd) :: goals
        | .error e => die 4 ("couldn't open file ".toList ++ path ++ ": ".toList ++ reason e)
    let setting : Sed.Setting := {
      instructions := instructions
      isSilent := a.has 'n' || ((whole.take 3) == "#n\n".toList || whole == "#n".toList)
      isExtended := isExtended, isSeparate := a.has 's' || a.has 'i', editsFiles := a.has 'i'
      suffix := (a.value? 'i').getD [], ending := if a.has 'z' then '\x00' else '\n'
      width := ((a.value? 'l').map (Text.valueOf 10)).getD 70 }
    let words := orInput files
    let start : Sed.State := {
      space := [], hold := [], line := 0, isEnded := true, files := words, name := ['-']
      feed? := none, ahead? := none, ranges := Array.replicate instructions.size .inactive
      hasSubstituted := false, appended := [], lastExpression? := none, lacksEnd := false
      goals := goals, edited? := none, hasFailed := false }
    let run : Sed.Editing (Option Nat) :=
      if setting.editsFiles then each (Sed.Editing.editFile setting) files
      else if setting.isSeparate then
        each (fun word => do
          modify ({ · with files := [word], line := 0, ahead? := none })
          Sed.Editing.cycles setting patience false) words
      else Sed.Editing.cycles setting patience false
    let (quit?, s) ← run.run start
    quit (match quit? with | some code => code | none => if s.hasFailed then 2 else 0)
where
  /-- How the editor is used. -/
  usage : Text := Text.joinWith ['\n'] (usageLines.map String.toList)
  /-- The lines of the usage. -/
  usageLines : List String :=
    ["Usage: sed [OPTION]... \x7bscript-only-if-no-other-script\x7d [input-file]...",
      "",
      "  -n, --quiet, --silent",
      "                 suppress automatic printing of pattern space",
      "      --debug",
      "                 annotate program execution",
      "  -e script, --expression=script",
      "                 add the script to the commands to be executed",
      "  -f script-file, --file=script-file",
      "                 add the contents of script-file to the commands to be executed",
      "  --follow-symlinks",
      "                 follow symlinks when processing in place",
      "  -i[SUFFIX], --in-place[=SUFFIX]",
      "                 edit files in place (makes backup if SUFFIX supplied)",
      "  -l N, --line-length=N",
      "                 specify the desired line-wrap length for the \x60l' command",
      "  --posix",
      "                 disable all GNU extensions.",
      "  -E, -r, --regexp-extended",
      "                 use extended regular expressions in the script",
      "                 (for portability use POSIX -E).",
      "  -s, --separate",
      "                 consider files as separate rather than as a single,",
      "                 continuous long stream.",
      "      --sandbox",
      "                 operate in sandbox mode (disable e/r/w commands).",
      "  -u, --unbuffered",
      "                 load minimal amounts of data from the input files and flush",
      "                 the output buffers more often",
      "  -z, --null-data",
      "                 separate lines by NUL characters",
      "      --help     display this help and exit",
      "      --version  output version information and exit",
      "",
      "If no -e, --expression, -f, or --file option is given, then the first",
      "non-option argument is taken as the sed script to interpret.  All",
      "remaining arguments are names of input files; if no input files are",
      "specified, then the standard input is read.",
      "",
      "GNU sed home page: <https://www.gnu.org/software/sed/>.",
      "General help using GNU software: <https://www.gnu.org/gethelp/>."]
  /-- The number of the script in which a position lies, and the position in it. -/
  place : List Text → Nat → Nat → Nat × Nat
    | [], p, n => (n, p)
    | [_], p, n => (n, p)
    | s :: rest, p, n => if p ≤ s.length then (n, p) else place rest (p - (s.length + 1)) (n + 1)
  each (f : Text → Sed.Editing (Option Nat)) : List Text → Sed.Editing (Option Nat)
    | [] => return none
    | word :: rest => do
      match ← f word with
      | some code => return some code
      | none => each f rest

end Tool
end RuleSets.Utility
