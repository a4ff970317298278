import RuleSets.Machine.Action
import RuleSets.Machine.Perform

/-!
# Tools

Pieces of the small programs that scripts call.  A tool keeps what it prints until there is much of
it or the tool ends, complains in its own name, and ends with a status.
-/

namespace RuleSets.Utility

open Machine (Action Call Environment Program)

/-- The state of a tool. -/
structure Workplace where
  /-- How the tool was called. -/
  name : Text
  status : Nat
  /-- What has been printed and not been written, the latest first, and how much that is. -/
  output : List Text
  size : Nat
  /-- Why something that was printed could not be written. -/
  lost? : Option IoError
  /-- What is said of output that is lost, and the status after that. -/
  lossText : Text
  lossStatus : Nat
  environment : Environment

/-- A piece of a tool. -/
abbrev Tool := StateT Workplace Action

/-- Ask the system. -/
def call (c : Call) : Tool c.Answer := StateT.lift (Machine.ask c)

/-- Start a child, and say its number. -/
def forkAction (child : Action Nat) : Tool Nat := StateT.lift (Machine.fork child)

/-- The wording of an error without its number. -/
def reason (e : IoError) : Text :=
  let s := Text.toRaw e.message
  match (List.range s.length).find? fun i => " (os".toList.isPrefixOf (s.drop i) with
  | some i => s.take i
  | none => s

/-- A text in quotation marks. -/
def quoted (t : Text) : Text :=
  if t.contains '\'' then
    if t.any "\"\\$\x60!".toList.contains then
      '\'' :: t.flatMap (fun c => if c == '\'' then "'\\''".toList else [c]) ++ ['\'']
    else '"' :: t ++ ['"']
  else '\'' :: t ++ ['\'']

/-- A text in quotation marks if a shell would not take it for one word. -/
def quotedIfNeeded (t : Text) : Text :=
  if t.isEmpty || t.any " \t\n'\"\\$\x60|&;<>()*?[]!#~=%\x7b".toList.contains then quoted t else t

namespace Tool

/-! ### Output -/

/-- Write what has been printed. -/
def flush : Tool Unit := do
  let s ← get
  if 0 < s.size then
    set { s with output := [], size := 0 }
    match ← call (.write 1 s.output.reverse.flatten) with
    | .ok _ => return
    | .error e => modify ({ · with lost? := some e })

/-- How much a tool keeps before it writes. -/
def bufferSize : Nat := 4096

/-- Print a text. -/
def print (t : Text) : Tool Unit := do
  modify fun s => { s with output := t :: s.output, size := s.size + t.length }
  if bufferSize ≤ (← get).size then flush

/-- Print a line. -/
def printLine (t : Text) : Tool Unit := print (t ++ ['\n'])

/-- Write a line to the standard error. -/
def report (t : Text) : Tool Unit := do
  let _ ← call (.write 2 (t ++ ['\n']))

/-- Complain. -/
def warn (t : Text) : Tool Unit := do report ((← get).name ++ ": ".toList ++ t)

/-- Set the status that the tool ends with. -/
def setStatus (n : Nat) : Tool Unit := modify ({ · with status := n })

/-- Complain, and fail in the end. -/
def fault (t : Text) : Tool Unit := do
  warn t
  setStatus 1

/-- End with a status. -/
def quit {α : Type} (status : Nat) : Tool α := do
  flush
  match (← get).lost? with
  | some e =>
    if status = 0 then
      let s ← get
      warn (s.lossText ++ ": ".toList ++ reason e)
      StateT.lift (Machine.exit s.lossStatus)
    else StateT.lift (Machine.exit status)
  | none => StateT.lift (Machine.exit status)

/-- Complain and end. -/
def die {α : Type} (status : Nat) (t : Text) : Tool α := do
  flush
  warn t
  quit status

/-- Complain about how the tool was called, and end. -/
def misuse {α : Type} (status : Nat) (t : Text) : Tool α := do
  warn t
  report ("Try '".toList ++ (← get).name ++ " --help' for more information.".toList)
  quit status

/-- The program that a tool is, given its arguments without its name. -/
def toProgram (act : List Text → Tool Unit) (arguments : List Text) (environment : Environment) :
    Program :=
  Action.toProgram do
    let tool : Tool Nat := do
      act (arguments.drop 1)
      quit (← get).status
    let (status, _) ← tool.run ⟨arguments.headD [], 0, [], 0, none, "write error".toList, 1,
      environment⟩
    return status

/-! ### Input -/

/-- More than the number of pieces that any input is read in. -/
def patience : Nat := Nat.pow 10 12

/-- How much is read at once. -/
def chunkSize : Nat := 65536

/-- Open an operand to read it; a hyphen stands for the standard input. -/
def openInput (word : Text) : Tool (Except IoError Nat) := do
  if word == ['-'] then return .ok 0 else call (.openFile word .input)

/-- Close an operand. -/
def closeInput (fd : Nat) : Tool Unit := do
  if fd ≠ 0 then
    let _ ← call (.close fd)

/-- Close the standard input if it has been an operand.  It is a fault if it was not open. -/
def closeStandard (operands : List Text) (complaint : String) : Tool Unit := do
  if operands.contains ['-'] then
    match ← call (.close 0) with
    | .ok _ => return
    | .error e => fault (complaint.toList ++ ": ".toList ++ reason e)

/-- An operand as it is named in complaints. -/
def inputName (word : Text) : Text := if word == ['-'] then "standard input".toList else word

/-- Go through the pieces of what can be read. -/
def eachPiece {σ : Type} (fd : Nat) (f : σ → Text → Tool σ) : Nat → σ → Tool (σ × Option IoError)
  | 0, a => return (a, none)
  | n + 1, a => do
    match (← call (.read fd chunkSize) : Except IoError Text) with
    | .error e => return (a, some e)
    | .ok [] => return (a, none)
    | .ok t => eachPiece fd f n (← f a t)

/-- All that can be read. -/
def readAll (fd : Nat) : Tool (Text × Option IoError) := do
  let (ts, e?) ← eachPiece fd (fun ts t => return t :: ts) patience []
  return (ts.reverse.flatten, e?)

/-- A line, and whether it was ended. -/
structure Line where
  text : Text
  isEnded : Bool

/-- Input that is taken line by line. -/
structure Feed where
  descriptor : Nat
  buffer : Text
  isOver : Bool
  error? : Option IoError

/-- Input that has not been read. -/
def Feed.start (descriptor : Nat) : Feed := ⟨descriptor, [], false, none⟩

/-- The part of a text up to a character, and what follows the character if it is there. -/
def cutAt (c : Char) (t : Text) : Text × Option Text :=
  go t []
where
  go : Text → Text → Text × Option Text
    | [], acc => (acc.reverse, none)
    | d :: t, acc => if d == c then (acc.reverse, some t) else go t (d :: acc)

/-- The next line, where lines end in a character. -/
def nextLine (ending : Char) : Nat → Feed → Tool (Option Line × Feed)
  | 0, f => return (none, f)
  | n + 1, f => do
    match cutAt ending f.buffer with
    | (line, some rest) => return (some ⟨line, true⟩, { f with buffer := rest })
    | (line, none) =>
      if f.isOver then
        return (if line.isEmpty then none else some ⟨line, false⟩, { f with buffer := [] })
      else
        match (← call (.read f.descriptor chunkSize) : Except IoError Text) with
        | .error e => nextLine ending n { f with isOver := true, error? := some e }
        | .ok [] => nextLine ending n { f with isOver := true }
        | .ok t => nextLine ending n { f with buffer := f.buffer ++ t }

/-- Go through the lines of what can be read, until there are no more or enough of them. -/
def eachLine {σ : Type} (ending : Char) (f : σ → Line → Tool (σ × Bool)) :
    Nat → Feed → σ → Tool (σ × Feed)
  | 0, feed, a => return (a, feed)
  | n + 1, feed, a => do
    match ← nextLine ending patience feed with
    | (none, feed) => return (a, feed)
    | (some line, feed) =>
      let (a, goesOn) ← f a line
      if goesOn then eachLine ending f n feed a else return (a, feed)

/-- The lines of a text; the last one need not be ended. -/
def linesOf (ending : Char) (t : Text) : List Text :=
  let pieces := Text.splitBy (· == ending) t
  if pieces.getLast? == some [] then pieces.dropLast else pieces

/-- What is known about a path, if there is something. -/
def facts? (path : Text) : Tool (Option Machine.FileFacts) := do
  match ← call (.facts path) with
  | .ok f => return some f
  | .error _ => return none

/-- Whether a path leads to a directory. -/
def isDirectory (path : Text) : Tool Bool := return (← facts? path).any (·.kind == .directory)

/-- The standard input takes the place of operands if there are none. -/
def orInput (operands : List Text) : List Text := if operands.isEmpty then [['-']] else operands

end Tool
end RuleSets.Utility
