import RuleSets.FileSystem
import RuleSets.Manifest

/-!
# Loading manifests

The extension of a manifest's file says how it is written.
-/

namespace RuleSets.Manifest

/-- Whether a file with this path holds YAML. -/
def isYaml (p : Path) : Bool :=
  match p.extension? with
  | some ext =>
    Text.eqIgnoringAsciiCase ext "yaml".toList || Text.eqIgnoringAsciiCase ext "yml".toList
  | none => false

/-- The text of a file, which must be UTF-8. -/
def readText (fs : FileSystem) (cwd : Location) (p : Path) : Except IoError Text := do
  match Utf8.decode? (← fs.read cwd p) with
  | some text => .ok text
  | none => .error .invalidUtf8

/-- The sources of a manifest's file. -/
def load (fs : FileSystem) (cwd : Location) (p : Path) : Except Fault (List Source) :=
  match readText fs cwd p with
  | .ok text => parse text (isYaml p)
  | .error e => .error (.unreadable p.text e)

end RuleSets.Manifest
