import RuleSets.Compiler
import RuleSets.Target

/-!
# The compilers of targets

How the compiler of a target is called.
-/

namespace RuleSets

namespace Target

/-- The name of a target's compiler. -/
def compilerName : Target → Text
  | singBox => "sing-box".toList
  | _ => "mihomo".toList

/-- How a target's compiler is called to compile a source to an output. -/
def invocation (t : Target) (program source output : Path) : Invocation :=
  match t.behavior? with
  | none =>
    ⟨program, ["rule-set".toList, "compile".toList, "--output".toList, output.text, source.text]⟩
  | some behavior =>
    ⟨program, ["convert-ruleset".toList, behavior.name, "yaml".toList, source.text, output.text]⟩

/-- The compiler of a target, given how programs are started. -/
def compiler (t : Target) (start : Invocation → FileSystem → Except IoError Job) (program : Path) :
    Compiler :=
  ⟨t.compilerName, fun source output => start (t.invocation program source output)⟩

end Target
end RuleSets
