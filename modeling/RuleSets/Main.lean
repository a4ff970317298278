import RuleSets.CommandLine
import RuleSets.Shell.Start

/-!
# The program

The files below the working directory are read, the command line is carried out on them, and what it
has changed is written back.  Compilers are scripts for the shell and use its own utilities; of the
addresses, only those of files below the working directory are answered.
-/

namespace RuleSets.CommandLine

/-- The absolute spelling of a location. -/
def spelling (loc : Location) : String := String.ofList ('/' :: Text.joinWith ['/'] loc)

/-- Whether a file names the program that interprets it; only such a file can be started. -/
def isScript (contents : Bytes) : Bool := [0x23, 0x21].isPrefixOf contents

/-- Add the entries below a directory.  What is neither a directory nor a file is left out. -/
partial def load (loc : Location) (fs : FileSystem) : IO FileSystem := do
  let mut fs := fs
  for found in ← (← IO.FS.realPath (spelling loc)).readDir do
    let there := loc ++ [found.fileName.toList]
    match (← found.path.symlinkMetadata).type with
    | .dir => fs ← load there (fs.insert there .directory)
    | .file =>
      let contents := (← IO.FS.readBinFile found.path).toList
      fs := fs.insert there (.file contents (isScript contents))
    | _ => pure ()
  return fs

/-- Whether two entries are of one kind. -/
def sameKind : Entry → Entry → Bool
  | .directory, .directory => true
  | .file _ _, .file _ _ => true
  | _, _ => false

/-- The entries that have to go, those in a directory before the directory. -/
def obsolete (before after : FileSystem) : List (Location × Entry) :=
  (before.toList.filter fun (loc, e) => !(after.get? loc).any (sameKind e)).reverse

/-- The entries that have to be written, a directory before those in it. -/
def written (before after : FileSystem) : List (Location × Entry) :=
  after.toList.filter fun (loc, e) => before.get? loc ≠ some e

/-- Make the files what they are in `after`. -/
def store (before after : FileSystem) : IO Unit := do
  for (loc, e) in obsolete before after do
    match e with
    | .directory => IO.FS.removeDir (spelling loc)
    | .file _ _ => IO.FS.removeFile (spelling loc)
  for (loc, e) in written before after do
    match e with
    | .directory => IO.FS.createDir (spelling loc)
    | .file contents _ => IO.FS.writeBinFile (spelling loc) ⟨contents.toArray⟩

/-- The names of the variables that are looked at. -/
def variableNames : List Text := "PATH".toList :: Setting.all.filterMap Setting.environmentName?

/-- The variables that are set, of those that are looked at. -/
def environment : IO Shell.Environment :=
  variableNames.filterMapM fun name => do
    return (← IO.getEnv (String.ofList name)).map fun value => (name, value.toList)

/-- The utilities, and the directories on the way to a location. -/
def surrounded (loc : Location) : FileSystem :=
  (List.range loc.length).foldl
    (fun fs n => OrderedMap.insert fs (loc.take (n + 1)) Entry.directory) Shell.system

end RuleSets.CommandLine

open RuleSets CommandLine

/-- Carry out the command line in the working directory. -/
def main (arguments : List String) : IO UInt32 := do
  let names := Text.splitBy (· == '/') (← IO.currentDir).toString.toList
  let cwd := names.filter fun name => !name.isEmpty
  let env ← environment
  let host : Host := {
    here := ⟨cwd, ← IO.monoMsNow⟩
    searchPath := (env.get? "PATH".toList).getD []
    start := Shell.start env cwd
    remote := fun url => .error (Fetcher.unreachable url) }
  let before ← load cwd (surrounded cwd)
  let (after, answer) := execute host env.get? (arguments.map String.toList) before
  store before after
  IO.print (String.ofList answer.output)
  if let some fatal := answer.fatal? then IO.eprintln (String.ofList fatal)
  return answer.exitCode.toUInt32
