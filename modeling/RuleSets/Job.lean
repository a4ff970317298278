import RuleSets.FileSystem

/-!
# Jobs

A job is a started program, seen by what it does to the file system and when.  Whoever waits for it
looks at it from time to time and kills it at the first look after its time is over, so of its steps
only those before that moment have happened.
-/

namespace RuleSets

/-- A program and its arguments. -/
structure Invocation where
  program : Path
  arguments : List Text
deriving DecidableEq, Repr

/-- How a program ends. -/
inductive Status where
  | exited (code : Nat)
  | signalled (signal : Nat)
deriving DecidableEq, Repr

namespace Status

/-- Whether a program has ended well. -/
def isSuccess (s : Status) : Bool := s == exited 0

/-- The number under which the system reports an ending. -/
def wait : Status → Nat
  | exited code => code % 256 * 256
  | signalled signal => signal

end Status

/-- A started program.  Times are milliseconds since its start. -/
structure Job where
  /-- The file system after each step that changes it, and the time of the step. -/
  steps : List (Nat × FileSystem)
  /-- When and how the program ends, if it ends by itself. -/
  ending? : Option (Nat × Status)
  /-- What it writes to its standard output, followed by what it writes to its standard error. -/
  output : Bytes

/-- What was seen of a job until it ended or was killed. -/
structure Observed where
  /-- The file system after each step that happened. -/
  states : List FileSystem
  /-- How the program ended, unless it was killed. -/
  status? : Option Status
  /-- What it wrote, trimmed; nothing if it was killed. -/
  output : Text

namespace Job

/-- The time between two looks at a job. -/
def pollInterval : Nat := 20

/-- The longest time for which jobs are followed: one that lasts longer counts as endless. -/
def longest : Nat := 3600000

/-- The time of the first look at which the limit is over. -/
def lastLook (limit : Nat) : Nat := (limit + (pollInterval - 1)) / pollInterval * pollInterval

/-- The states that a job goes through up to a time. -/
def statesUntil (job : Job) (time : Nat) : List FileSystem :=
  (job.steps.filter (·.1 ≤ time)).map (·.2)

/-- The states that a job goes through when nobody stops it. -/
def states (job : Job) : List FileSystem := job.steps.map (·.2)

/-- Wait for a job for a limited time. -/
def observe (job : Job) (limit : Nat) : Observed :=
  let last := lastLook limit
  match job.ending? with
  | some (time, status) =>
    if time ≤ last then ⟨job.states, some status, Text.trim (Utf8.decodeLossy job.output)⟩
    else ⟨job.statesUntil last, none, []⟩
  | none => ⟨job.statesUntil last, none, []⟩

/-- The largest number of seconds of a moment. -/
def maxSeconds : Nat := Nat.pow 2 63 - 1

/-- The moment at which a limit is over, if there is such a moment. -/
def deadline? (now limit : Nat) : Option Nat :=
  if (now + limit) / 1000 ≤ maxSeconds then some (now + limit) else none

end Job
end RuleSets
