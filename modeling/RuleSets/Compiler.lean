import RuleSets.Job
import RuleSets.Text.Duration

/-!
# Compilers

A compiler is a program that turns an emitted source into a compiled file.  `Compiler.compile` lets
it write to a temporary file and gives that file the place of the output only when the compiler
ended well and wrote something; every state that the file system goes through is listed, so that it
can be said what is never visible at the output.
-/

namespace RuleSets

/-- Where relative paths start, and what time it is, in milliseconds. -/
structure Surroundings where
  cwd : Location
  now : Nat

/-- A program that compiles a source to an output. -/
structure Compiler where
  /-- What it is called in reports. -/
  name : Text
  /-- Start it on a source and an output. -/
  start : Path → Path → FileSystem → Except IoError Job

namespace Compiler

/-- How compilers are run. -/
structure Options where
  /-- The time a compiler has, in milliseconds. -/
  timeout : Nat
  /-- Whether a failure also takes away the previous output. -/
  strict : Bool
deriving DecidableEq, Repr

/-- What came of an attempt to compile. -/
inductive Outcome where
  /-- The output is in place and has this many bytes. -/
  | built (bytes : Nat)
  | failed (failure : Failure)
  /-- The time could not be kept, and everything was given up with the compiler still running. -/
  | abandoned

/-- An attempt to compile: every state of the file system after its start, and what came of it. -/
structure Attempt where
  states : List FileSystem
  outcome : Outcome

/-- The file system after a list of states. -/
def lastState (states : List FileSystem) (fs : FileSystem) : FileSystem := states.getLast?.getD fs

/-- The file system after an attempt. -/
def Attempt.final (a : Attempt) (fs : FileSystem) : FileSystem := lastState a.states fs

/-- What a compiler has achieved, by how it ended and the size of what it left at the path that it was
given. -/
def verdict (c : Compiler) (tmp : Path) (limit : Nat) (status? : Option Status)
    (size : Except IoError Nat) : Outcome :=
  let fault (f : CompileFault) (what : Text) := Outcome.failed (.compile f (c.name ++ what))
  match status? with
  | none => fault .timeout (" timed out after ".toList ++ Text.duration limit)
  | some status =>
    if status.isSuccess then
      match size with
      | .error _ => fault .missingOutput (" did not create ".toList ++ tmp.text)
      | .ok 0 => fault .emptyOutput " produced an empty file".toList
      | .ok size => .built size
    else
      fault .nonZeroExit (" exited with Some(ExitStatus(unix_wait_status(".toList ++
        Text.decimal status.wait ++ ")))".toList)

/-- Let a compiler write to a path, and judge what it has left there. -/
def produce (c : Compiler) (here : Surroundings) (limit : Nat) (source tmp : Path)
    (fs : FileSystem) : Attempt :=
  match c.start source tmp fs with
  | .error e => ⟨[], .failed (.compile .spawn e.message)⟩
  | .ok job =>
    match Job.deadline? here.now limit with
    | none => ⟨job.states, .abandoned⟩
    | some _ =>
      let seen := job.observe limit
      let fs' := lastState seen.states fs
      ⟨seen.states, c.verdict tmp limit seen.status? (fs'.size here.cwd tmp)⟩

/-- Take away the temporary file and, if asked to, the output. -/
def cleared (cwd : Location) (tmp output : Path) (strict : Bool) (fs : FileSystem) :
    List FileSystem :=
  let fs' := fs.discard cwd tmp
  if strict then [fs', fs'.discard cwd output] else [fs']

/-- Compile a source to an output by way of a temporary file. -/
def compile (c : Compiler) (here : Surroundings) (o : Options) (source output : Path)
    (fs : FileSystem) : Attempt :=
  let tmp := output.tmp
  match fs.removeIfPresent here.cwd tmp with
  | .error e => ⟨[], .failed (.io e)⟩
  | .ok fs₁ =>
    let made := c.produce here o.timeout source tmp fs₁
    let fs₂ := made.final fs₁
    let giveUp (f : Failure) : Attempt :=
      ⟨fs₁ :: made.states ++ cleared here.cwd tmp output o.strict fs₂, .failed f⟩
    match made.outcome with
    | .abandoned => ⟨fs₁ :: made.states, .abandoned⟩
    | .failed f => giveUp f
    | .built size =>
      match fs₂.rename here.cwd tmp output with
      | .ok fs₃ => ⟨fs₁ :: made.states ++ [fs₃], .built size⟩
      | .error e => giveUp (.io e)

end Compiler
end RuleSets
