import RuleSets.Proofs.Compiler.Attempt

/-!
# A compiler that copies

The simplest compiler that meets the hypotheses of this theory: it writes to its output twice, an
empty file and then its source (`copying_start`).
-/

namespace RuleSets.Compiler

variable {cwd : Location} {source output : Path} {fs : FileSystem} {contents : Bytes}

/-- The compiler whose output is its source. -/
def copying (cwd : Location) : Compiler where
  name := "copy".toList
  start source output fs := do
    let contents ← fs.read cwd source
    let fs₁ ← fs.write cwd output []
    let fs₂ ← fs₁.write cwd output contents
    return ⟨[(0, fs₁), (1, fs₂)], some (2, .exited 0), []⟩

theorem copying_start (hout : fs.Admits cwd output) (hread : fs.read cwd source = .ok contents) :
    ∃ executable, executable = FileSystem.isExecutable (fs.get? (output.location cwd)) ∧
      (copying cwd).start source output fs = .ok
        ⟨[(0, fs.put (output.location cwd) (some (.file [] executable))),
          (1, fs.put (output.location cwd) (some (.file contents executable)))],
          some (2, .exited 0), []⟩ := by
  refine ⟨_, rfl, ?_⟩
  have hout₁ := hout.put hout.file (e := some (.file []
    (FileSystem.isExecutable (fs.get? (output.location cwd))))) (by simp)
  simp only [copying, hread, hout.write_eq, bind, Except.bind, pure, Except.pure]
  rw [hout₁.write_eq, FileSystem.get?_put_self, FileSystem.put_put]
  rfl

theorem copying_writesOnlyOutput (hout : fs.Admits cwd output) :
    (copying cwd).WritesOnlyOutput cwd source output fs := by
  intro job hjob st hst
  cases hread : fs.read cwd source with
  | error e =>
    simp only [copying, hread, bind, Except.bind] at hjob
    cases hjob
  | ok contents =>
    obtain ⟨executable, -, hstart⟩ := copying_start hout hread
    rw [hstart] at hjob
    cases hjob
    rcases List.mem_cons.1 hst with rfl | hst
    · exact ⟨some (.file [] executable), by simp, rfl⟩
    · rw [List.mem_singleton.1 hst]
      exact ⟨some (.file contents executable), by simp, rfl⟩

end RuleSets.Compiler
