import RuleSets.Shell.Session

/-!
# Finding commands

What the name of a command calls: a function of the script, a command of the shell itself, or a
program in a directory of the search path.
-/

namespace RuleSets.Shell

/-- The commands that the shell carries out itself. -/
def builtinNames : List Text :=
  specialNames ++ ["[", "alias", "bg", "cd", "chdir", "command", "echo", "false", "fg", "getopts",
    "hash", "jobs", "kill", "printf", "pwd", "read", "test", "true", "type", "ulimit", "umask",
    "unalias", "wait"].map String.toList

/-- The commands whose arguments may be assignments. -/
def assigningNames : List Text := ["export", "readonly", "local", "alias"].map String.toList

/-- The search path where none is set. -/
def standardPath : Text :=
  "/usr/local/sbin:/usr/local/bin:/usr/sbin:/usr/bin:/sbin:/bin".toList

/-- What a name calls. -/
inductive Found where
  | builtin
  | function (body : Command)
  | program (path : Text)
  /-- Nothing, and why. -/
  | missing (why : Text)

namespace Sh

/-- The search path. -/
def searchPath : Sh Text := return (← value? "PATH".toList).getD []

/-- The paths at which a name is looked for. -/
def candidates (searchPath name : Text) : List Text :=
  (Text.splitBy (· == ':') searchPath).map fun directory =>
    if directory.isEmpty then name else directory ++ '/' :: name

/-- Why nothing could be executed. -/
def executionReason : IoError → Text
  | .notFound | .notADirectory => "not found".toList
  | e => reason e

/-- The first path at which there is a file, or the last error that is worth telling. -/
def firstFile (e : IoError) : List Text → Sh (Except IoError Text)
  | [] => return .error e
  | path :: rest => do
    match ← call (.facts path) with
    | .ok f => if f.kind == .regular then return .ok path else firstFile .permissionDenied rest
    | .error .notFound | .error .notADirectory => firstFile e rest
    | .error e => firstFile e rest

/-- The program that a name calls. -/
def findProgram (searchPath name : Text) : Sh Found := do
  if name.contains '/' then return .program name
  else
    match ← firstFile .notFound (candidates searchPath name) with
    | .ok path => return .program path
    | .error e => return .missing (executionReason e)

/-- What a name calls that is no program. -/
def findOwn? (withFunctions : Bool) (name : Text) : Sh (Option Found) := do
  let s ← get
  let functions := if withFunctions then s.functions else []
  match functions.find? (·.1 == name) with
  | some (_, body) => return some (.function body)
  | none => return if builtinNames.contains name then some .builtin else none

/-- What a name calls. -/
def find (withFunctions : Bool) (searchPath name : Text) : Sh Found := do
  match ← findOwn? withFunctions name with
  | some f => return f
  | none => findProgram searchPath name

end Sh
end RuleSets.Shell
