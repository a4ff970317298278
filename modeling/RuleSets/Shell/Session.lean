import RuleSets.Machine.Action
import RuleSets.Shell.Field
import RuleSets.Shell.Source

/-!
# Sessions

The state of a running shell, and the pieces of its program: they change the state, ask the system,
and may stop early.
-/

namespace RuleSets.Shell

open Machine (Action Call Environment Signal)

/-- A variable. -/
structure Variable where
  value? : Option Text
  isExported : Bool
  isReadOnly : Bool

/-- What is to be restored when a function returns or a command has ended: variables as they were
before. -/
abbrev Frame := List (Text × Option Variable)

/-- The processes of a pipeline, and how they have ended as far as that is known. -/
structure Task where
  number : Nat
  processes : List (Nat × Option Status)
  /-- Whether somebody has asked how it ended. -/
  isAsked : Bool

/-- The state of a shell. -/
structure Session where
  name : Text
  arguments : List Text
  bindings : List (Text × Variable)
  functions : List (Text × Command)
  aliases : List (Text × Text)
  documents : List (Nat × Word)
  nextDocument : Nat
  /-- The letters of the options that are set. -/
  options : List Char
  status : Nat
  /-- The status of the last command whose output a word took up, since the command at
  hand began. -/
  taken : Nat
  pid : Nat
  /-- The last process that nobody waits for. -/
  background? : Option Nat
  /-- The children that the shell knows of, the latest first. -/
  tasks : List Task
  traps : List (Signal × Text)
  /-- The signals whose actions are still to be done. -/
  pending : List Signal
  frames : List Frame
  /-- The line of the command at hand. -/
  line : Nat
  /-- The command that the shell is carrying out itself. -/
  command? : Option Text
  /-- How many loops and functions are being carried out. -/
  loops : Nat
  calls : Nat
  /-- The directory as it was entered. -/
  directory : Text
  /-- The programs that have been found, and where. -/
  found : List (Text × Text)
  /-- The number of the argument that is searched for options next, and how much of the one before
  it has been used up, if something of that is left. -/
  optionIndex : Nat
  optionOffset? : Option Nat
  /-- The status to exit with, where the end of the shell is not the end of a command. -/
  exiting? : Option Nat
  /-- For every command at hand, the descriptors that it has redirected and where they are kept. -/
  redirections : List (List (Nat × Option Nat))
  /-- The permissions that new files do not get. -/
  mask : Nat
  /-- Whether something could not be written. -/
  hasLost : Bool

/-- Why a shell stops what it is doing. -/
inductive Stop where
  /-- It is told to end. -/
  | exit
  /-- It ends with the status that it has. -/
  | finish
  /-- Something is wrong, which ends what is not prepared for it. -/
  | error
  /-- Some loops end. -/
  | breaking (levels : Nat)
  /-- A loop begins its next turn. -/
  | continuing (levels : Nat)
  /-- A function or a script that was read in ends. -/
  | returning

/-- A piece of the program of a shell. -/
abbrev Sh := ExceptT Stop (StateT Session Action)

/-- Ask the system. -/
def call (c : Call) : Sh c.Answer := ExceptT.lift (StateT.lift (Machine.ask c))

/-- Start a child, and say its number. -/
def forkAction (child : Action Nat) : Sh Nat := ExceptT.lift (StateT.lift (Machine.fork child))

/-- The wording of an error without its number. -/
def reason (e : IoError) : Text :=
  let s := Text.toRaw e.message
  match (List.range s.length).find? fun i => " (os".toList.isPrefixOf (s.drop i) with
  | some i => s.take i
  | none => s

namespace Sh

/-! ### Output -/

/-- Write to a descriptor. -/
def write (descriptor : Nat) (t : Text) : Sh Unit := do
  if !t.isEmpty then
    match ← call (.write descriptor t) with
    | .ok _ => return
    | .error _ => modify ({ · with hasLost := true })

/-- Write to the standard output. -/
def print (t : Text) : Sh Unit := write 1 t

/-- Write a line to the standard output. -/
def printLine (t : Text) : Sh Unit := write 1 (t ++ ['\n'])

/-- Complain, in the name of the command that is being carried out. -/
def complain (what : Text) : Sh Unit := do
  let s ← get
  let command := s.command?.elim [] (· ++ ": ".toList)
  let t := s.name ++ ": ".toList ++ Text.decimal s.line ++ ": ".toList ++ command ++ what ++ ['\n']
  let _ ← call (.write 2 t)

/-- Set the status. -/
def setStatus (n : Nat) : Sh Unit := modify ({ · with status := n })

/-- Complain about something that ends what is not prepared for it. -/
def fail {α : Type} (what : Text) : Sh α := do
  complain what
  setStatus 2
  throw .error

/-- Complain that a number was expected. -/
def failNumber {α : Type} (word : Text) : Sh α := fail ("Illegal number: ".toList ++ word)

/-- The number that a word of digits stands for. -/
def number (word : Text) : Sh Nat := do
  let digits := word.dropWhile Text.isSpace
  let digits := if digits.head? == some '+' then digits.drop 1 else digits
  let rest := digits.dropWhile Char.isDigit
  let n := Text.valueOf 10 (digits.takeWhile Char.isDigit)
  if rest.length < digits.length && rest.all Text.isSpace && n < Nat.pow 2 31 then return n
  else failNumber word

/-! ### Variables -/

/-- Whether an option is set. -/
def hasOption (c : Char) : Sh Bool := return (← get).options.contains c

/-- A variable. -/
def known? (name : Text) : Sh (Option Variable) :=
  return ((← get).bindings.find? (·.1 == name)).map (·.2)

/-- The value of a variable. -/
def value? (name : Text) : Sh (Option Text) := return (← known? name).bind (·.value?)

/-- Put a variable in the place of the one with its name. -/
def put (name : Text) (v? : Option Variable) : Sh Unit :=
  modify fun s =>
    let others := s.bindings.filter (·.1 != name)
    { s with bindings := match v? with | some v => (name, v) :: others | none => others }

/-- Do what is due when a variable has changed. -/
def notice (name : Text) : Sh Unit := do
  if name == "OPTIND".toList then
    let word := (← value? name).getD []
    let n ← if word.isEmpty then pure 1 else number word
    modify ({ · with optionIndex := max n 1, optionOffset? := none })
  else if name == "PATH".toList then modify ({ · with found := [] })

/-- From which length on a value is work. -/
def longText : Nat := 2000

/-- Set a variable. -/
def assign (name value : Text) : Sh Unit := do
  let v := (← known? name).getD ⟨none, false, false⟩
  if v.isReadOnly then fail (name ++ ": is read only".toList)
  let isExported := v.isExported || (← hasOption 'a')
  put name (some { v with value? := some value, isExported := isExported })
  if longText < value.length then call (.pass (value.length / 32))
  notice name

/-- Take away a variable. -/
def unset (name : Text) : Sh Unit := do
  match ← known? name with
  | none => return
  | some v =>
    if v.isReadOnly then fail (name ++ ": is read only".toList)
    put name none
    notice name

/-- Keep a variable as it is, to be restored with the innermost frame. -/
def keep (name : Text) : Sh Unit := do
  let v? ← known? name
  modify fun s =>
    match s.frames with
    | f :: rest =>
      if f.any (·.1 == name) then s else { s with frames := ((name, v?) :: f) :: rest }
    | [] => s

/-- Do something and restore the variables that it has kept. -/
def framed {α : Type} (act : Sh α) : Sh α := do
  modify fun s => { s with frames := [] :: s.frames }
  let restore : Sh Unit := do
    match (← get).frames with
    | f :: rest =>
      modify ({ · with frames := rest })
      for (name, v?) in f do
        put name v?
        notice name
    | [] => return
  try
    let a ← act
    restore
    return a
  catch stop =>
    restore
    throw stop

/-- The characters at which fields are split. -/
def separators : Sh Text := return (← value? "IFS".toList).getD [' ', '\t', '\n']

/-- The character between arguments that are joined. -/
def joint : Sh Text := return (← separators).take 1

/-- The value of a parameter that is one text. -/
def parameter? (name : Text) : Sh (Option Text) := do
  let s ← get
  match name with
  | ['#'] => return some (Text.decimal s.arguments.length)
  | ['?'] => return some (Text.decimal s.status)
  | ['$'] => return some (Text.decimal s.pid)
  | ['-'] => return some ("ubaCEVvxsnmiIfe".toList.filter s.options.contains)
  | ['!'] => return s.background?.map Text.decimal
  | ['0'] => return some s.name
  | ['@'] | ['*'] => return some (Text.joinWith (← joint) s.arguments)
  | c :: _ =>
    if c.isDigit then
      let n := Text.valueOf 10 name
      return if n = 0 then some s.name else s.arguments[n - 1]?
    else value? name
  | [] => return none

/-- The variables that programs get. -/
def environment : Sh Environment :=
  return (← get).bindings.filterMap fun (name, v) =>
    if v.isExported then v.value?.map fun value => (name, value) else none

/-! ### Control -/

/-- Do something, and whatever becomes of it, something else afterwards. -/
def finally_ {α : Type} (act : Sh α) (after : Sh Unit) : Sh α := do
  try
    let a ← act
    after
    return a
  catch stop =>
    after
    throw stop

/-- Do something in the name of a command. -/
def named {α : Type} (command? : Option Text) (act : Sh α) : Sh α := do
  let before := (← get).command?
  modify ({ · with command? := command? })
  finally_ act (modify ({ · with command? := before }))

/-- Take note of the signals that have come. -/
def collect : Sh Unit := do
  let signals : List Signal ← call .arrivals
  if !signals.isEmpty then modify fun s => { s with pending := s.pending ++ signals }

/-- Never go on. -/
def hang {α : Type} : Sh α := do
  let _ ← call (.sleep (Nat.pow 10 15))
  throw .exit

end Sh
end RuleSets.Shell
