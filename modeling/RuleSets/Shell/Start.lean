import RuleSets.Machine.Run
import RuleSets.Shell.Interpreter
import RuleSets.Utility.Table

/-!
# Starting programs

The system on which programs run: the shell and the tools are installed on it.  A program that is
started gets a machine of its own, with nothing to read and two ways for output to leave it.  What
it does there until nothing more can be seen of it makes it a job.
-/

namespace RuleSets.Shell

open Machine (Program)
open Machine.State (Catalogue)

/-- The variables of a program and their values. -/
abbrev Environment := Machine.Environment

/-- The value of a variable. -/
def Environment.get? (env : Environment) (name : Text) : Option Text :=
  (env.find? (·.1 == name)).map (·.2)

/-- The names under which the shell is installed. -/
def shellNames : List Text := ["sh", "dash", "bash"].map String.toList

/-- The programs that are installed. -/
def catalogue : Catalogue := fun name =>
  if shellNames.contains name then some interpreter else Utility.program? name

/-- The names of the programs that are installed. -/
def installed : List Text := shellNames ++ Utility.tools.map (·.1.toList)

/-- What is in the file of a program that is installed. -/
def imageContents : Bytes := [0x7f, 0x45, 0x4c, 0x46, 0x02, 0x01, 0x01, 0x00, 0xff]

/-- The directories of a system. -/
def systemDirectories : List String :=
  ["bin", "boot", "dev", "dev/fd", "dev/pts", "dev/shm", "etc", "home", "lib", "lib64", "media",
    "mnt", "opt", "proc", "root", "run", "sbin", "srv", "sys", "tmp", "usr", "usr/bin",
    "usr/include", "usr/lib", "usr/local", "usr/local/bin", "usr/local/lib", "usr/local/sbin",
    "usr/sbin", "usr/share", "var", "var/lib", "var/log", "var/run", "var/tmp"]

/-- The devices of a system. -/
def systemDevices : List String := ["full", "null", "stderr", "stdin", "stdout", "tty", "zero"]

/-- The files of a system on which nothing but the shell and the tools is installed. -/
def system : FileSystem :=
  let loc (path : String) : Location := Text.splitBy (· == '/') path.toList
  let fs : FileSystem := systemDirectories.foldl (fun fs d => fs.insert (loc d) .directory) ∅
  let fs := systemDevices.foldl (fun fs d =>
    fs.insert ["dev".toList, d.toList] (.file [] false)) fs
  Machine.State.programDirectories.foldl (fun fs d =>
    installed.foldl (fun fs name => fs.insert (d ++ [name]) (.file imageContents true)) fs) fs

/-- The microseconds that it takes to start a program. -/
def startTime : Nat := 1000

/-- The number of the first process. -/
def firstPid : Nat := 4711

/-- The process of a program that starts. -/
def firstProcess (cwd : Location) : Machine.Process where
  pid := firstPid
  parent := 0
  program := .exit 127
  due := startTime
  isBlocked := false
  isStopped := false
  descriptors := [(0, 0), (1, 1), (2, 2)]
  cwd := cwd
  responses := []
  arrivals := []
  ending? := none

/-- The machine on which a program starts. -/
def machine (cwd : Location) (fs : FileSystem) : Machine.State where
  fs := fs
  now := startTime
  steps := []
  changes := []
  processes := [firstProcess cwd]
  files := [(0, ⟨.device .null, .input, 0⟩), (1, ⟨.sink 0, .output, 0⟩), (2, ⟨.sink 1, .output, 0⟩)]
  nodes := []
  pipes := []
  sinks := [[], []]
  nextId := 3
  nextPid := firstPid + 1
  work := 0
  ending? := none

/-- The search path of a process that has none. -/
def defaultSearchPath : Text := "/bin:/usr/bin".toList

/-- The paths at which a program is looked for. -/
def pathsOf (searchPath : Text) (program : Path) : List Path :=
  if program.text.contains '/' || program.text.isEmpty then [program]
  else (Text.splitBy (· == ':') searchPath).map fun dir =>
    (if dir.isEmpty then ⟨['.']⟩ else Path.mk dir : Path).join program

/-- The first program at some paths.  A path at which nothing can be executed is passed over, but
remembered if that is for want of permission. -/
def firstProgram (attempt : Path → Except IoError Program) (denied : Bool) :
    List Path → Except IoError Program
  | [] => .error (if denied then .permissionDenied else .notFound)
  | p :: rest =>
    match attempt p with
    | .ok program => .ok program
    | .error .notFound | .error .notADirectory => firstProgram attempt denied rest
    | .error .permissionDenied => firstProgram attempt true rest
    | .error e => .error e

/-- Start a program. -/
def start (env : Environment) (cwd : Location) (i : Invocation) (fs : FileSystem) :
    Except IoError Job := do
  let searchPath := (Environment.get? env "PATH".toList).getD defaultSearchPath
  let m := machine cwd fs
  let bindings := env.map fun (name, value) => (Text.toRaw name, Text.toRaw value)
  let words := i.program.text :: i.arguments
  if words.any (·.contains '\x00') then throw .nulInArgument
  let attempt (p : Path) : Except IoError Program :=
    m.programAt (firstProcess cwd) catalogue bindings 4 (Text.toRaw p.text) (words.map Text.toRaw)
  let program ← firstProgram attempt false (pathsOf searchPath i.program)
  let m := m.modify firstPid ({ · with program := program })
  return (m.run catalogue).toJob

/-- The compiler that is a script for the shell: it gets the source and the output as
its arguments. -/
def scriptInvocation (script : Text) (arguments : List Text) : Invocation :=
  ⟨⟨"/bin/sh".toList⟩, "-c".toList :: script :: arguments⟩

end RuleSets.Shell
