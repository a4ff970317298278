import RuleSets.CommandLine
import RuleSets.Proofs.Pipeline.Keep

/-!
# Runs that cannot start

A run fails only for what keeps it from starting (`failed_iff`), and then it has made directories at
most.  Once it has started, what goes wrong with a source or a target is told in the summary, so the
run succeeds with one result for every source (`run_starts_or_leaves_files`).
-/

namespace RuleSets

namespace Pipeline

variable {p : Pipeline} {sources : List Source} {s : Source} {fs : FileSystem}

theorem name_of_build {r : BuildResult} (h : (p.build s fs).2 = some r) : r.name = s.name := by
  rw [build] at h
  split at h
  · rw [← Option.some.inj h]
  · dsimp only at h
    split at h
    · rw [← Option.some.inj h]
    · obtain ⟨statuses, -, rfl⟩ := Option.map_eq_some_iff.1 h
      rfl

theorem map_name_of_buildAll {results : List BuildResult}
    (h : (p.buildAll sources fs).2 = some results) :
    results.map (·.name) = sources.map (·.name) := by
  induction sources generalizing fs results with
  | nil =>
    cases h
    rfl
  | cons s rest ih =>
    rw [buildAll] at h
    rcases hb : p.build s fs with ⟨fs₁, _ | r⟩ <;> rw [hb] at h
    · cases h
    obtain ⟨results', hresults, rfl⟩ := Option.map_eq_some_iff.1 h
    have hname : r.name = s.name := name_of_build (congrArg Prod.snd hb)
    rw [List.map_cons, List.map_cons, hname, ih hresults]

/-- A run fails just when a directory cannot be made, and before anything is built. -/
theorem run_eq_failed {g : FileSystem} {f : Failure} : p.run sources fs = (g, .failed f) ↔
    ∃ e, p.prepare fs = (g, .error e) ∧ f = .io e := by
  rw [run]
  rcases p.prepare fs with ⟨fs₁, e | _⟩
  · simp [eq_comm]
  dsimp only
  rcases p.buildAll sources fs₁ with ⟨fs₂, _ | results⟩ <;> simp

end Pipeline

/-- A manifest that can be used has a source. -/
theorem Manifest.ne_nil_of_load {fs : FileSystem} {cwd : Location} {path : Path}
    {sources : List Source} (h : load fs cwd path = .ok sources) : sources ≠ [] := by
  rintro rfl
  rw [load] at h
  split at h
  · rw [parse] at h
    split at h
    · unfold ofValue at h
      split at h
      · cases h
      · split at h
        · cases h
        · rename_i hne
          exact hne (Except.ok.inj h)
      · cases h
    · cases h
  · cases h

namespace CommandLine

variable {host : Host} {s : Settings} {fs g : FileSystem} {sources : List Source} {p : Pipeline}

/-- What has to be there before a run can start. -/
structure Ready (host : Host) (s : Settings) (fs : FileSystem) (sources : List Source) : Prop where
  manifest : Manifest.load fs host.here.cwd s.manifest = .ok sources
  /-- Something is enabled. -/
  enabled : ¬ (s.skipSingBox = true ∧ s.skipMihomo = true)
  time : 0 < s.compileTimeout
  /-- The program of every enabled target is found. -/
  located : ∀ program ∈ s.programs, ∃ found,
    locateProgram fs host.here.cwd host.searchPath program.1 = .ok found
  /-- The directories can be made. -/
  prepared : ∀ p, s.pipeline host fs = .ok p → (p.prepare fs).2 = .ok ()

/-! ### Plans -/

theorem exists_compilers_iff {programs : List (Path × List Target)} :
    (∃ cs, Settings.compilers host fs programs = .ok cs) ↔ ∀ program ∈ programs, ∃ found,
      locateProgram fs host.here.cwd host.searchPath program.1 = .ok found := by
  induction programs with
  | nil => exact ⟨fun _ => List.forall_mem_nil _, fun _ => ⟨[], rfl⟩⟩
  | cons program programs ih =>
    obtain ⟨program, targets⟩ := program
    rw [List.forall_mem_cons, ← ih, Settings.compilers]
    cases locateProgram fs host.here.cwd host.searchPath program with
    | error f => simp
    | ok found =>
      cases Settings.compilers host fs programs with
      | error f => simp [bind, Except.bind]
      | ok cs => simp [bind, Except.bind, pure, Except.pure]

theorem pipeline_eq : s.pipeline host fs =
    if s.skipSingBox = true ∧ s.skipMihomo = true then .error .nothingToBuild
    else if s.compileTimeout = 0 then .error .noTime
    else (Settings.compilers host fs s.programs).map fun cs =>
      ⟨host.here, Fetcher.files host.here.cwd host.remote, cs, s.options⟩ := by
  rw [Settings.pipeline]
  simp only [Bool.and_eq_true]
  split
  · rfl
  split
  · rfl
  cases Settings.compilers host fs s.programs <;> rfl

theorem exists_pipeline_iff : (∃ p, s.pipeline host fs = .ok p) ↔
    ¬ (s.skipSingBox = true ∧ s.skipMihomo = true) ∧ 0 < s.compileTimeout ∧
      ∀ program ∈ s.programs, ∃ found,
        locateProgram fs host.here.cwd host.searchPath program.1 = .ok found := by
  rw [← exists_compilers_iff, pipeline_eq]
  split
  · rename_i hskip
    simp [hskip]
  rename_i henabled
  split
  · rename_i hzero
    simp [hzero]
  · rename_i htime
    cases Settings.compilers host fs s.programs <;>
      simp [henabled, Nat.pos_of_ne_zero htime, Except.map]

theorem here_of_pipeline (h : s.pipeline host fs = .ok p) :
    p.here = host.here ∧ p.options = s.options := by
  rw [pipeline_eq] at h
  split at h
  · cases h
  split at h
  · cases h
  · cases hcs : Settings.compilers host fs s.programs with
    | error f =>
      rw [hcs] at h
      cases h
    | ok cs =>
      rw [hcs] at h
      cases h
      exact ⟨rfl, rfl⟩

theorem plan_eq_ok : s.plan host fs = .ok (sources, p) ↔
    Manifest.load fs host.here.cwd s.manifest = .ok sources ∧ s.pipeline host fs = .ok p := by
  rw [Settings.plan]
  cases Manifest.load fs host.here.cwd s.manifest with
  | error fault => simp
  | ok sources' => cases s.pipeline host fs <;> simp [Except.map]

/-- What has to be there is a plan whose directories can be made. -/
theorem ready_iff : Ready host s fs sources ↔
    ∃ p, s.plan host fs = .ok (sources, p) ∧ (p.prepare fs).2 = .ok () := by
  constructor
  · rintro ⟨hmanifest, henabled, htime, hlocated, hprepared⟩
    obtain ⟨p, hp⟩ := exists_pipeline_iff.2 ⟨henabled, htime, hlocated⟩
    exact ⟨p, plan_eq_ok.2 ⟨hmanifest, hp⟩, hprepared p hp⟩
  · rintro ⟨p, hplan, hprepared⟩
    obtain ⟨hmanifest, hp⟩ := plan_eq_ok.1 hplan
    obtain ⟨henabled, htime, hlocated⟩ := exists_pipeline_iff.1 ⟨p, hp⟩
    refine ⟨hmanifest, henabled, htime, hlocated, fun q hq => ?_⟩
    obtain rfl : p = q := Except.ok.inj (hp.symm.trans hq)
    exact hprepared

/-! ### Runs -/

/-- A run fails where it finds files, or with directories besides them. -/
theorem extends_of_failed {fatal : Fatal} (h : run host s fs = (g, .failed fatal)) :
    FileSystem.Extends g fs := by
  rw [run] at h
  split at h
  · cases h
    exact .refl fs
  · rename_i sources p hplan
    split at h
    · cases h
    · rename_i fs' f hrun
      cases h
      obtain ⟨e, hprepare, -⟩ := Pipeline.run_eq_failed.1 hrun
      have := p.prepare_extends fs
      rwa [hprepare] at this
    · cases h

/-- A run fails just when something that it needs is not there. -/
theorem failed_iff : (∃ g fatal, run host s fs = (g, .failed fatal)) ↔
    ¬ ∃ sources, Ready host s fs sources := by
  constructor
  · rintro ⟨g, fatal, hrun⟩ ⟨sources, hready⟩
    obtain ⟨p, hplan, hprepared⟩ := ready_iff.1 hready
    rw [run, hplan] at hrun
    dsimp only at hrun
    split at hrun
    · cases hrun
    · rename_i fs' f hfailed
      obtain ⟨e, hprepare, -⟩ := Pipeline.run_eq_failed.1 hfailed
      rw [hprepare] at hprepared
      cases hprepared
    · cases hrun
  · intro hready
    rw [run]
    rcases hplan : s.plan host fs with fatal | ⟨sources, p⟩
    · exact ⟨fs, fatal, rfl⟩
    rcases hprepare : p.prepare fs with ⟨fs₁, e | _⟩
    · have hfailed : p.run sources fs = (fs₁, .failed (.io e)) :=
        Pipeline.run_eq_failed.2 ⟨e, hprepare, rfl⟩
      dsimp only
      rw [hfailed]
      exact ⟨fs₁, _, rfl⟩
    · exact absurd ⟨sources, ready_iff.2 ⟨p, hplan, by rw [hprepare]⟩⟩ hready

/-- A run that has started ends with a result for every source, whatever becomes of the source. -/
theorem finished_of_ready (h : Ready host s fs sources)
    (hend : (Job.deadline? host.here.now (s.compileTimeout * 1000)).isSome) :
    ∃ g summary, run host s fs = (g, .finished summary) ∧
      summary.results.map (·.name) = sources.map (·.name) := by
  obtain ⟨p, hplan, hprepared⟩ := ready_iff.1 h
  obtain ⟨hhere, hoptions⟩ := here_of_pipeline (plan_eq_ok.1 hplan).2
  have hdeadline : (Job.deadline? p.here.now p.options.compile.timeout).isSome := by
    rw [hhere, hoptions]
    exact hend
  obtain ⟨g, summary, hrun⟩ : ∃ g summary, p.run sources fs = (g, .finished summary) :=
    Pipeline.run_finishes hdeadline hprepared
  refine ⟨g, summary, ?_, Pipeline.map_name_of_buildAll (Pipeline.run_eq_finished.1 hrun).2.1⟩
  rw [run, hplan]
  dsimp only
  rw [hrun]

/-- A run fails just when something is missing that it needs to start; then the program says so with
the exit code one, which nothing else has, and has touched no file and deleted nothing.  If all is
there and the end of the compilers' time can be told, the run succeeds, with one result for every
source in the order of the manifest. -/
theorem run_starts_or_leaves_files {arguments : List Text} {environment : Text → Option Text}
    (hparse : parse arguments environment = some (.run s)) (host : Host) (fs : FileSystem) :
    ((∃ g fatal, run host s fs = (g, .failed fatal)) ↔ ¬ ∃ sources, Ready host s fs sources) ∧
    ((execute host environment arguments fs).2.exitCode = 1 ↔
      ∃ g fatal, run host s fs = (g, .failed fatal)) ∧
    (∀ g fatal, run host s fs = (g, .failed fatal) → FileSystem.Extends g fs ∧
      execute host environment arguments fs = (g, ⟨1, [], some fatal.report⟩)) ∧
    ∀ sources, Ready host s fs sources →
      (Job.deadline? host.here.now (s.compileTimeout * 1000)).isSome → sources ≠ [] ∧
      ∃ g summary, run host s fs = (g, .finished summary) ∧
        execute host environment arguments fs = (g, ⟨0, summaryText summary, none⟩) ∧
        summary.results.map (·.name) = sources.map (·.name) := by
  have hexecute : execute host environment arguments fs =
      ((run host s fs).1, (run host s fs).2.answer) := by
    rw [execute, hparse]
  refine ⟨failed_iff, ?_, fun g fatal hrun => ⟨extends_of_failed hrun, ?_⟩,
    fun sources hready hend => ⟨Manifest.ne_nil_of_load hready.manifest, ?_⟩⟩
  · rw [hexecute]
    rcases run host s fs with ⟨g, summary | fatal | _⟩ <;> simp [Ending.answer]
  · rw [hexecute, hrun]
    rfl
  · obtain ⟨g, summary, hrun, hnames⟩ := finished_of_ready hready hend
    exact ⟨g, summary, hrun, by rw [hexecute, hrun]; rfl, hnames⟩

/-! ### A run with failing sources -/

/-- A host on which no program can be started and no address answers. -/
def noProgramHost : Host where
  here := ⟨[], 0⟩
  searchPath := []
  start _ _ := .error .notFound
  remote url := .error (Fetcher.unreachable url)

/-- A manifest of two sources, one of them readable, and a program. -/
def twoSourceFiles : FileSystem :=
  ((((FileSystem.put ∅ ["remote-rules.json".toList] (some (.file (Utf8.encode
    "[\x7b\"name\": \"b\", \"url\": \"mem://b\"\x7d, \x7b\"name\": \"a\", \"url\": \"file:///a.txt\"\x7d]".toList)
      false))).put
    ["a.txt".toList] (some (.file (Utf8.encode "example.com".toList) false))).put
    ["bin".toList] (some .directory)).put
    ["bin".toList, "sing-box".toList] (some (.file [] true)))

/-- A command line that asks for the files of sing-box only. -/
def singBoxArguments : List Text := ["--singbox-bin=bin/sing-box".toList, "--skip-mihomo".toList]

def singBoxSettings : Settings :=
  { singBoxProgram := ⟨"bin/sing-box".toList⟩, skipMihomo := true }

theorem twoSourceFiles_reports :
    parse singBoxArguments (fun _ => none) = some (.run singBoxSettings) ∧
    ∃ sources, Ready noProgramHost singBoxSettings twoSourceFiles sources ∧
      ∃ g summary, run noProgramHost singBoxSettings twoSourceFiles = (g, .finished summary) ∧
        summary.results.map (·.name) = ["b".toList, "a".toList] := by
  have hparse : parse singBoxArguments (fun _ => none) = some (.run singBoxSettings) := by decide
  have hready : Ready noProgramHost singBoxSettings twoSourceFiles
      [⟨"b".toList, "mem://b".toList, .auto⟩, ⟨"a".toList, "file:///a.txt".toList, .auto⟩] :=
    ready_iff.2 ⟨_, plan_eq_ok.2 ⟨by decide +kernel, by rfl⟩, by rfl⟩
  obtain ⟨-, g, summary, hrun, -, hnames⟩ :=
    (run_starts_or_leaves_files hparse noProgramHost twoSourceFiles).2.2.2 _ hready (by decide)
  exact ⟨hparse, _, hready, g, summary, hrun, hnames⟩

end CommandLine
end RuleSets
