import RuleSets.FileSystem
import RuleSets.Job
import RuleSets.Machine.Signal
import RuleSets.Text.Raw

/-!
# Calls

A program is what it asks of the system it runs on and how it goes on with every answer.  Everything
between two calls is its own affair.  Texts in calls and answers are raw: a character for a byte.
-/

namespace RuleSets.Machine

/-- How a file is opened. -/
structure Opening where
  reads : Bool
  writes : Bool
  /-- Make the file if it is missing. -/
  creates : Bool
  /-- Take away what is in the file. -/
  clears : Bool
  /-- Write only behind what is in the file. -/
  appends : Bool
  /-- Do not open a file that is there. -/
  onlyNew : Bool
deriving DecidableEq, Repr

namespace Opening

/-- Open a file to read it. -/
def input : Opening := ⟨true, false, false, false, false, false⟩

/-- Open a file to write it anew. -/
def output : Opening := ⟨false, true, true, true, false, false⟩

/-- Open a file to write behind what is in it. -/
def appending : Opening := ⟨false, true, true, false, true, false⟩

/-- Open a file to read and write it. -/
def both : Opening := ⟨true, true, true, false, false, false⟩

/-- Make a file that must not be there. -/
def fresh : Opening := ⟨false, true, true, false, false, true⟩

end Opening

/-- What can be found at a path. -/
inductive FileKind where
  | regular
  | directory
  | device
  | pipe
deriving DecidableEq, Repr

/-- What is known about a file without reading it. -/
structure FileFacts where
  kind : FileKind
  size : Nat
  isExecutable : Bool
  /-- When it was changed last, if that was after the start. -/
  changed : Nat
  /-- The same for two names of one file. -/
  identity : Text
deriving Repr

/-- A change of the file system. -/
inductive Edit where
  | remove (path : Text)
  | removeDirectory (path : Text)
  | makeDirectory (path : Text)
  | rename (path goal : Text)
  | link (path goal : Text)
  | resize (path : Text) (size : Nat)
  | setExecutable (path : Text) (isExecutable : Bool)
  | touch (path : Text)
deriving Repr

/-- From where a position in a file is counted. -/
inductive Origin where
  | start
  | current
  | finish
deriving DecidableEq, Repr

/-- What is heard of a child. -/
inductive News where
  | noChild
  | nothingYet
  /-- A signal came first. -/
  | interrupted
  | ended (pid : Nat) (status : Status)
deriving DecidableEq, Repr

/-- The names of variables and their values, as a program gets them. -/
abbrev Environment := List (Text × Text)

/-- What a program asks of the system. -/
inductive Call where
  /-- Let a moment pass, and name the work that has been done in it. -/
  | pass (work : Nat)
  | openFile (path : Text) (how : Opening)
  | close (descriptor : Nat)
  /-- Give what a descriptor leads to another number, the least one from `least` that is free. -/
  | duplicate (descriptor least : Nat)
  /-- Let a descriptor lead to where another one leads. -/
  | connect (descriptor source : Nat)
  | read (descriptor most : Nat)
  | write (descriptor : Nat) (t : Text)
  | seek (descriptor : Nat) (origin : Origin) (offset : Int)
  | pipe
  | facts (path : Text)
  | factsOf (descriptor : Nat)
  | list (path : Text)
  | edit (e : Edit)
  | enter (path : Text)
  | directory
  | execute (path : Text) (arguments : List Text) (environment : Environment)
  | wait (pid? : Option Nat) (blocks : Bool)
  | signal (pid : Nat) (n : Signal)
  | respond (n : Signal) (r : Signal.Response)
  | arrivals
  | sleep (microseconds : Nat)
  | clock
  | identity

/-- The kind of answer to a call. -/
def Call.Answer : Call → Type
  | .pass _ | .sleep _ | .respond _ _ => Unit
  | .openFile _ _ | .duplicate _ _ | .seek _ _ _ => Except IoError Nat
  | .close _ | .connect _ _ | .write _ _ | .edit _ | .enter _ | .signal _ _ => Except IoError Unit
  | .read _ _ => Except IoError Text
  | .pipe => Nat × Nat
  | .facts _ | .factsOf _ => Except IoError FileFacts
  | .list _ => Except IoError (List Text)
  | .directory => Text
  -- Only a failure comes back: otherwise another program runs.
  | .execute _ _ _ => IoError
  | .wait _ _ => News
  | .arrivals => List Signal
  | .clock => Nat
  | .identity => Nat × Nat

/-- A program from here to its end. -/
inductive Program where
  | exit (code : Nat)
  | call (c : Call) (next : c.Answer → Program)
  /-- Start a child that is a copy of the process; the program goes on with its number. -/
  | fork (child : Program) (next : Nat → Program)

end RuleSets.Machine
