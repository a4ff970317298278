import RuleSets.FileSystem

/-!
# Locating programs

A path of more than one component must lead to a file; a bare name is looked for in the directories
of a search path.
-/

namespace RuleSets

/-- The directories of a search path, which are separated by colons. -/
def searchDirectories (searchPath : Text) : List Path :=
  (Text.splitBy (· == ':') searchPath).map Path.mk

/-- Find a program. -/
def locateProgram (fs : FileSystem) (cwd : Location) (searchPath : Text) (program : Path) :
    Except Failure Path :=
  if 1 < program.components.length then
    if fs.isFile cwd program then .ok program
    else .error (.config ("compiler binary not found: ".toList ++ program.text))
  else
    match ((searchDirectories searchPath).map (·.join program)).find? (fs.isFile cwd) with
    | some found => .ok found
    | none => .error (.config ("compiler binary not found on PATH: ".toList ++ program.text))

end RuleSets
