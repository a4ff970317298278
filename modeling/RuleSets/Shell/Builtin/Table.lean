import RuleSets.Shell.Builtin.Process
import RuleSets.Shell.Condition
import RuleSets.Shell.Format

/-!
# The commands of the shell

What the shell does itself when a command calls it, but for the commands that carry out others.
-/

namespace RuleSets.Shell.Sh

/-- Print arguments with escapes. -/
def echo (arguments : List Text) : Sh Nat := do
  let (ends, words) : Bool × List Text :=
    match arguments with
    | ['-', 'n'] :: words => (false, words)
    | words => (true, words)
  print (texts ends words)
  return 0
where
  /-- Arguments with spaces between them, and the end of the line. -/
  texts (ends : Bool) : List Text → Text
    | [] => if ends then ['\n'] else []
    | word :: rest =>
      let (t, isOver) := echoed word
      if isOver then t
      else t ++ (if rest.isEmpty then [] else [' ']) ++ texts ends rest

/-- Print arguments as a format says. -/
def printf (arguments : List Text) : Sh Nat := do
  let (_, words) ← options "" arguments
  match words with
  | [] => fail "usage: printf format [arg ...]".toList
  | form :: words =>
    let (t, complaints, fault?) := format form words
    for c in complaints do complain c
    print t
    match fault? with
    | some fault => fail fault
    | none => return if complaints.isEmpty then 0 else 1

/-- The number of loops that end. -/
def levels (arguments : List Text) : Sh Nat := do
  let n ← match arguments with | [] => pure 1 | word :: _ => number word
  if n = 0 then failNumber (arguments.headD [])
  return min n (← get).loops

/-- End loops. -/
def break_ (arguments : List Text) : Sh Nat := do
  let n ← levels arguments
  setStatus 0
  if 0 < n then throw (.breaking n) else return 0

/-- Begin the next turn of a loop. -/
def continue_ (arguments : List Text) : Sh Nat := do
  let n ← levels arguments
  setStatus 0
  if 0 < n then throw (.continuing n) else return 0

/-- End a function or a script that was read in. -/
def return_ (arguments : List Text) : Sh Nat := do
  match arguments with
  | [] => pure ()
  | word :: _ => setStatus (← number word)
  throw .returning

/-- End the shell. -/
def exit_ (arguments : List Text) : Sh Nat := do
  match arguments with
  | [] => pure ()
  | word :: _ =>
    let n ← number word
    modify ({ · with exiting? := some n })
  throw .exit

/-- Become a program, if one is named. -/
def exec (arguments : List Text) : Sh Nat := do
  let (_, words) ← options "" arguments
  if words.isEmpty then return 0
  else
    becomeProgram (← searchPath) words
    return 0

/-- What a command of the shell does with its arguments. -/
def builtin? (name : Text) : Option (List Text → Sh Nat) :=
  match String.ofList name with
  | ":" | "true" => some fun _ => return 0
  | "false" => some fun _ => return 1
  | "[" | "test" => some (test name)
  | "alias" => some alias_
  | "bg" | "fg" => some move
  | "break" => some break_
  | "cd" | "chdir" => some cd
  | "command" => some command
  | "continue" => some continue_
  | "echo" => some echo
  | "exec" => some exec
  | "exit" => some exit_
  | "export" => some export_
  | "getopts" => some getopts
  | "hash" => some hash
  | "jobs" => some jobs
  | "kill" => some kill
  | "local" => some local_
  | "printf" => some printf
  | "pwd" => some pwd
  | "read" => some read
  | "readonly" => some readonly
  | "return" => some return_
  | "set" => some set_
  | "shift" => some shift
  | "times" => some times
  | "trap" => some trap
  | "type" => some type
  | "ulimit" => some ulimit
  | "umask" => some umask
  | "unalias" => some unalias
  | "unset" => some unset_
  | "wait" => some wait
  | _ => none

end RuleSets.Shell.Sh
