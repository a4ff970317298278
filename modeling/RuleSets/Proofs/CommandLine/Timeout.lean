import RuleSets.Proofs.CommandLine.Arguments
import RuleSets.Proofs.CommandLine.Run

/-!
# Times without an end

The command line accepts as the time for compilers what 64 bits can hold, while the seconds of a
moment have 63.  So at every moment times are accepted that do not end, and with one of them a run is
given up as soon as it has started a compiler (`timeout_never_ends_iff`).  What it has not cleared
away by then stays, such as an older compiled file in strict mode (`longest_time_never_ends`).
-/

namespace RuleSets.CommandLine

variable {arguments : List Text} {environment : Text → Option Text} {host : Host} {s : Settings}
  {fs : FileSystem} {sources : List Source} {p : Pipeline}

theorem exitCode_eq_abandoned_iff (hparse : parse arguments environment = some (.run s)) :
    (execute host environment arguments fs).2.exitCode = 101 ↔
      ∃ g, run host s fs = (g, .abandoned) := by
  rw [execute, hparse]
  dsimp only
  rcases run host s fs with ⟨g, summary | fatal | _⟩ <;> simp [Ending.answer]

/-- The compilers of a run have the time that its settings give them. -/
theorem neverEnds_iff (h : s.plan host fs = .ok (sources, p)) :
    p.NeverEnds ↔ Nat.pow 2 63 ≤ host.here.now / 1000 + s.compileTimeout := by
  obtain ⟨hhere, hoptions⟩ := here_of_pipeline (plan_eq_ok.1 h).2
  rw [Pipeline.NeverEnds, hhere, hoptions]
  exact Job.deadline?_eq_none_iff

theorem run_abandoned_iff : (∃ g, run host s fs = (g, .abandoned)) ↔
    Nat.pow 2 63 ≤ host.here.now / 1000 + s.compileTimeout ∧
      ∃ sources p, s.plan host fs = .ok (sources, p) ∧ p.StartsCompiler sources fs := by
  rw [run]
  rcases hplan : s.plan host fs with fatal | ⟨sources, p⟩
  · simp
  have habandoned := @Pipeline.run_abandoned_iff p sources fs
  rw [neverEnds_iff hplan] at habandoned
  simp only [Except.ok.injEq, Prod.mk.injEq, and_assoc, exists_and_left, exists_eq_left', ← habandoned]
  rcases p.run sources fs with ⟨g, summary | f | _⟩ <;> simp

/-- The command line accepts as many seconds as 64 bits can hold, and a time does not end just where
they reach 2 to the power of 63 together with the seconds of the moment.  An attempt is then given up
once its compiler has been started, having deleted no more than the temporary file, and a run with
the first compiler that it starts. -/
theorem timeout_never_ends_iff (n : Nat) :
    (AcceptsTimeout n ↔ n < Nat.pow 2 64) ∧
    (∀ now, Job.deadline? now (n * 1000) = none ↔ Nat.pow 2 63 ≤ now / 1000 + n) ∧
    (∀ (c : Compiler) (here : Surroundings) strict source output fs states,
      c.compile here ⟨n * 1000, strict⟩ source output fs = ⟨states, .abandoned⟩ ↔
        Nat.pow 2 63 ≤ here.now / 1000 + n ∧
          ∃ fs₁ job, c.Starts here.cwd source output fs fs₁ job ∧ fs₁ :: job.states = states) ∧
    ∀ arguments environment s, parse arguments environment = some (.run s) →
      s.compileTimeout = n → ∀ host fs,
        ((∃ g, run host s fs = (g, .abandoned)) ↔ Nat.pow 2 63 ≤ host.here.now / 1000 + n ∧
          ∃ sources p, s.plan host fs = .ok (sources, p) ∧ p.StartsCompiler sources fs) ∧
        ((execute host environment arguments fs).2.exitCode = 101 ↔
          ∃ g, run host s fs = (g, .abandoned)) := by
  refine ⟨acceptsTimeout_iff, fun now => Job.deadline?_eq_none_iff, ?_, ?_⟩
  · intro c here strict source output fs states
    rw [← Job.deadline?_eq_none_iff]
    exact Compiler.compile_eq_abandoned_iff
  · rintro arguments environment s hparse rfl host fs
    exact ⟨run_abandoned_iff, exitCode_eq_abandoned_iff hparse⟩

/-! ### The longest times -/

/-- A host whose programs fail as soon as they are started. -/
def failingHost (now : Nat) : Host where
  here := ⟨[], now⟩
  searchPath := []
  start _ _ := .ok ⟨[], some (0, .exited 1), []⟩
  remote url := .error (Fetcher.unreachable url)

/-- A manifest of one source, a program, and an older compiled file. -/
def staleArtifactFiles : FileSystem :=
  [("remote-rules.json", Entry.file (Utf8.encode
      "[\x7b\"name\": \"a\", \"url\": \"file:///a.txt\", \"format\": \"domain-text\"\x7d]".toList) false),
    ("a.txt", .file (Utf8.encode "example.com".toList) false), ("bin", .directory),
    ("bin/sing-box", .file [] true), ("dist", .directory), ("dist/singbox", .directory),
    ("dist/singbox/a.srs", .file [3] false)].foldl
    (fun fs e => fs.put (Text.splitBy (· == '/') e.1.toList) (some e.2)) ∅

def timedArguments (seconds : Text) : List Text :=
  ["--singbox-bin=bin/sing-box".toList, "--skip-mihomo".toList,
    "--compile-timeout=".toList ++ seconds]

def timedSettings (seconds : Nat) : Settings :=
  { singBoxProgram := ⟨"bin/sing-box".toList⟩, skipMihomo := true, compileTimeout := seconds }

/-- With the seconds of 63 bits for compilers the very first second of the clock is still met, and
the next one is not. -/
theorem last_second_counts :
    let arguments := timedArguments "9223372036854775807".toList
    let s := timedSettings 9223372036854775807
    parse arguments (fun _ => none) = some (.run s) ∧ s.compileTimeout = 9223372036854775807 ∧
    (¬ ∃ g, run (failingHost 999) s staleArtifactFiles = (g, .abandoned)) ∧
    ∃ g, run (failingHost 1000) s staleArtifactFiles = (g, .abandoned) := by
  have hparse : parse (timedArguments "9223372036854775807".toList) (fun _ => none) =
      some (.run (timedSettings 9223372036854775807)) := by decide +kernel
  have habandoned := (timeout_never_ends_iff 9223372036854775807).2.2.2 _ _ _ hparse rfl
  refine ⟨hparse, rfl, ?_, ?_⟩
  · intro h
    exact absurd ((habandoned (failingHost 999) staleArtifactFiles).1.1 h).1 (by decide)
  · have hexit : (execute (failingHost 1000) (fun _ => none)
        (timedArguments "9223372036854775807".toList) staleArtifactFiles).2.exitCode = 101 := by
      decide +kernel
    exact (habandoned (failingHost 1000) staleArtifactFiles).2.1 hexit

/-- The run is given up, with the older compiled file and the emitted source in place. -/
theorem longest_time_never_ends :
    let arguments := timedArguments "18446744073709551615".toList
    let ended := execute (failingHost 0) (fun _ => none) arguments staleArtifactFiles
    parse arguments (fun _ => none) = some (.run (timedSettings 18446744073709551615)) ∧
    Job.deadline? 0 (18446744073709551615 * 1000) = none ∧
    ended.2.exitCode = 101 ∧
    ended.1.at? ["dist".toList, "singbox".toList, "a.srs".toList] = some (.file [3] false) ∧
    (ended.1.at? [".work".toList, "a.json".toList]).isSome := by
  refine ⟨by decide +kernel, by decide +kernel, ?_⟩
  decide +kernel

end RuleSets.CommandLine
