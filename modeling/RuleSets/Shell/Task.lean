import RuleSets.Shell.Redirection

/-!
# Tasks

The children of a shell: how they are started, waited for and known by their numbers.
-/

namespace RuleSets.Shell

namespace Task

/-- Whether all processes of a task have ended. -/
def isDone (t : Task) : Bool := t.processes.all (·.2.isSome)

/-- The code that an ending stands for. -/
def codeOf : Status → Nat
  | .exited code => code % 256
  | .signalled signal => 128 + signal

/-- The status of a task that is done: that of its last process. -/
def status (t : Task) : Nat := (t.processes.getLast?.bind (·.2)).elim 0 codeOf

end Task

namespace Sh

/-- A task by its number. -/
def task? (number : Nat) : Sh (Option Task) :=
  return (← get).tasks.find? (·.number == number)

/-- Forget a task. -/
def dropTask (number : Nat) : Sh Unit :=
  modify fun s => { s with tasks := s.tasks.filter (·.number != number) }

/-- Begin a task without processes.  Tasks that somebody has asked for are forgotten. -/
def newTask : Sh Nat := do
  modify fun s => { s with tasks := s.tasks.filter fun t => !(t.isDone && t.isAsked) }
  let used := (← get).tasks.map (·.number)
  let number := ((List.range (used.length + 1)).map (· + 1)).find? (!used.contains ·) |>.getD 1
  modify fun s => { s with tasks := ⟨number, [], false⟩ :: s.tasks }
  return number

/-- Add a process to a task. -/
def addProcess (number pid : Nat) : Sh Unit :=
  modify fun s =>
    { s with tasks := s.tasks.map fun t =>
        if t.number == number then { t with processes := t.processes ++ [(pid, none)] } else t }

/-- Note how a process has ended.  The result is the number of its task. -/
def noteEnding (pid : Nat) (status : Status) : Sh (Option Nat) := do
  let isIt (t : Task) : Bool := t.processes.any fun p => p.1 == pid && p.2.isNone
  let number? := ((← get).tasks.find? isIt).map (·.number)
  modify fun s =>
    { s with tasks := s.tasks.map fun t =>
        if isIt t then
          { t with processes := t.processes.map fun p =>
              if p.1 == pid then (pid, some status) else p }
        else t }
  return number?

/-- What is told of an ending. -/
def endingText : Status → Text
  | .exited 0 => "Done".toList
  | .exited code => "Done(".toList ++ Text.decimal (code % 256) ++ [')']
  | .signalled signal => Machine.Signal.description signal

/-- Wait for the next news of children, and say whether to go on waiting. -/
def hear (foreground? : Option Nat) (blocks : Bool) : Sh Bool := do
  match (← call (.wait none blocks) : Machine.News) with
  | .ended pid status =>
    let number? ← noteEnding pid status
    match status with
    | .signalled signal =>
      let isQuiet := signal == 2 || signal == Machine.Signal.pipe
      if number?.isSome && number? == foreground? && !isQuiet then
        let _ ← call (.write 2 (endingText status ++ ['\n']))
    | .exited _ => pure ()
    return true
  | .interrupted =>
    collect
    return true
  | .nothingYet | .noChild => return false

/-- Wait until a task is done. -/
def awaitTask (number : Nat) : Nat → Sh Nat
  | 0 => return 0
  | n + 1 => do
    match ← task? number with
    | none => return (← get).status
    | some t =>
      if t.isDone then return t.status
      else if ← hear (some number) true then awaitTask number n
      else return t.status

/-- More than the number of signals and children that a shell hears of. -/
def patience : Nat := 1000000

/-- Wait for a task and forget it. -/
def finishTask (number : Nat) : Sh Nat := do
  let status ← awaitTask number patience
  dropTask number
  return status

/-- Wait for a task that a script waits for; a trapped signal comes between, and then its code is
the result. -/
def awaitAsked (number? : Option Nat) (isDone : Session → Bool) (result : Session → Nat) :
    Nat → Sh Nat
  | 0 => return 0
  | n + 1 => do
    if isDone (← get) then return result (← get)
    else if ← hear number? true then
      match (← get).pending.getLast? with
      | some signal => return 128 + signal
      | none => awaitAsked number? isDone result n
    else return result (← get)

/-- Take note of the children that have ended. -/
def hearAll : Nat → Sh Unit
  | 0 => return
  | n + 1 => do if ← hear none false then hearAll n

/-- The task that a text calls: its number behind a percent sign, or the latest one. -/
def taskOf (word : Text) : Sh Task := do
  let tasks := (← get).tasks
  let orFail (t? : Option Task) (complaint : String) : Sh Task :=
    match t? with
    | some t => return t
    | none => fail complaint.toList
  match word.drop 1 with
  | [] | ['+'] | ['%'] => orFail tasks.head? "No current job"
  | ['-'] => orFail (tasks.drop 1).head? "No previous job"
  | name =>
    match tasks.find? fun t => Text.decimal t.number == name with
    | some t => return t
    | none => fail ("No such job: ".toList ++ word)

/-- Whether there are traps that do something. -/
def hasTraps : Sh Bool := return (← get).traps.any (!·.2.isEmpty)

/-- Forget what a child does not take over: traps and tasks. -/
def becomeChild : Sh Unit := do
  for (n, action) in (← get).traps do
    if !action.isEmpty && n ≠ 0 then
      let _ ← call (.respond n .byDefault)
  modify fun s =>
    { s with traps := s.traps.filter (·.2.isEmpty), tasks := [], pending := [], exiting? := none }

end Sh
end RuleSets.Shell
