import RuleSets.FileSystem
import RuleSets.Pipeline.Options

/-!
# Orphans

An orphan is a file in a directory of compiled files whose name has the extension of an enabled
target, perhaps with `.tmp` behind it, and which is no compiled file of a present source.  Temporary
files are orphans always.
-/

namespace RuleSets.Pipeline

/-- A file name without `.tmp` at its end. -/
def withoutTmp (file : Text) : Text := (Text.beforeSuffix? ".tmp".toList file).getD file

/-- Whether a file is an orphan among the compiled files of some targets, given the names of
the sources. -/
def isOrphan (targets : List Target) (names : List Text) (file : Text) : Bool :=
  let base := withoutTmp file
  let isManaged := targets.any fun t => t.extension.isSuffixOf base
  let isExpected := targets.any fun t => names.any fun n => t.artifactName n == file
  isManaged && !(base == file && isExpected)

/-- The targets by directory: those with the same directory stand together. -/
def byDirectory (o : Options) : List Target → List (Path × List Target)
  | [] => []
  | t :: ts =>
    let dir := o.artifactDir t
    let rest := byDirectory o ts
    let here := rest.filter (·.1.same dir)
    (dir, t :: here.flatMap (·.2)) :: rest.filter fun g => !g.1.same dir

/-- Delete the files that satisfy `p` in a directory, and count them. -/
def removeFiles (cwd : Location) (dir : Path) (p : Text → Bool) (fs : FileSystem) :
    FileSystem × Nat :=
  match fs.list cwd dir with
  | .error _ => (fs, 0)
  | .ok files =>
    (files.filter p).foldl (fun (fs, n) file =>
      match fs.remove cwd (dir.join ⟨file⟩) with
      | .ok fs' => (fs', n + 1)
      | .error _ => (fs, n)) (fs, 0)

/-- Delete the orphans in the directories of the enabled targets, and count them. -/
def removeOrphans (cwd : Location) (o : Options) (targets : List Target) (names : List Text)
    (fs : FileSystem) : FileSystem × Nat :=
  (byDirectory o targets).foldl (fun (fs, n) (dir, ts) =>
    let (fs', m) := removeFiles cwd dir (isOrphan ts names) fs
    (fs', n + m)) (fs, 0)

end RuleSets.Pipeline
