import RuleSets.Compiler
import RuleSets.Path
import RuleSets.Target

/-!
# Options

Where a run keeps its files.  Every target has a directory for its compiled files; both mihomo
targets share theirs.
-/

namespace RuleSets.Pipeline

/-- The options of a run. -/
structure Options where
  /-- Where compiled files for sing-box are kept. -/
  singBoxDir : Path := ⟨"dist/singbox".toList⟩
  /-- Where compiled files for mihomo are kept. -/
  mihomoDir : Path := ⟨"dist/mihomo".toList⟩
  /-- Where emitted sources are written. -/
  workDir : Path := ⟨".work".toList⟩
  /-- The time that a compiler has, and whether failures take away previous files. -/
  compile : Compiler.Options := ⟨120000, true⟩
  /-- Whether emitted sources stay after compiling. -/
  keepSources : Bool := false
  /-- The version of emitted rule-set documents. -/
  version : Nat := Target.defaultVersion

namespace Options

/-- The directory of a target's compiled files. -/
def artifactDir (o : Options) : Target → Path
  | .singBox => o.singBoxDir
  | .mihomoDomain | .mihomoIpCidr => o.mihomoDir

/-- The compiled file of a target for a source's name. -/
def artifactPath (o : Options) (t : Target) (name : Text) : Path :=
  (o.artifactDir t).join ⟨t.artifactName name⟩

/-- The emitted source of a target for a source's name. -/
def sourcePath (o : Options) (t : Target) (name : Text) : Path :=
  o.workDir.join ⟨t.sourceName name⟩

end Options
end RuleSets.Pipeline
