import RuleSets.CommandLine.Arguments
import RuleSets.Compiler.Locate
import RuleSets.Manifest.Load
import RuleSets.Pipeline
import RuleSets.Target.Compiler

/-!
# The command line

A run reads the manifest, finds the compilers and starts the pipeline.  It fails only for what keeps
it from starting: then no file has been touched.  What goes wrong with a single source is told in
the summary and does not count as a failure of the run.
-/

namespace RuleSets.CommandLine

/-- What a run finds around itself besides the files. -/
structure Host where
  here : Surroundings
  /-- The search path for programs; nothing is found on an empty one but in the
  working directory. -/
  searchPath : Text
  /-- How programs are started. -/
  start : Invocation → FileSystem → Except IoError Job
  /-- How addresses are answered that lead to no file. -/
  remote : Text → Except Failure Text

/-- What keeps a run from starting. -/
inductive Fatal where
  | manifest (path : Path) (fault : Manifest.Fault)
  | nothingToBuild
  | noTime
  | missing (target : Target) (failure : Failure)
  | aborted (failure : Failure)
deriving DecidableEq, Repr

/-- A report and, after it, what the system has reported. -/
def withCause (f : Failure) : Text :=
  match f with
  | .io e => f.report ++ ": ".toList ++ e.message
  | f => f.report

/-- The report of what keeps a run from starting. -/
def Fatal.report : Fatal → Text
  | manifest path fault =>
    "cannot load manifest ".toList ++ path.text ++ ": ".toList ++ withCause fault.toFailure
  | nothingToBuild => "nothing to build: both --skip-singbox and --skip-mihomo are set".toList
  | noTime => "--compile-timeout must be positive".toList
  | missing t failure => t.compilerName ++ " is required: ".toList ++ withCause failure
  | aborted failure => "pipeline aborted: ".toList ++ withCause failure

namespace Settings

/-- The options of the pipeline. -/
def options (s : Settings) : Pipeline.Options where
  singBoxDir := s.singBoxDir
  mihomoDir := s.mihomoDir
  workDir := s.workDir
  compile := ⟨s.compileTimeout * 1000, s.strict⟩
  keepSources := s.keepSources
  version := s.version

/-- The targets that are not skipped, with the programs that compile for them. -/
def programs (s : Settings) : List (Path × List Target) :=
  (if s.skipSingBox then [] else [(s.singBoxProgram, [.singBox])]) ++
  (if s.skipMihomo then [] else [(s.mihomoProgram, [.mihomoDomain, .mihomoIpCidr])])

/-- The targets with their compilers, once every program has been found. -/
def compilers (host : Host) (fs : FileSystem) :
    List (Path × List Target) → Except Fatal (List (Target × Compiler))
  | [] => .ok []
  | (program, targets) :: rest =>
    match locateProgram fs host.here.cwd host.searchPath program with
    | .error f => .error (.missing (targets.headD .singBox) f)
    | .ok found => do
      let others ← compilers host fs rest
      return targets.map (fun t => (t, t.compiler host.start found)) ++ others

/-- The pipeline that the settings ask for. -/
def pipeline (s : Settings) (host : Host) (fs : FileSystem) : Except Fatal Pipeline := do
  if s.skipSingBox && s.skipMihomo then throw .nothingToBuild
  if s.compileTimeout = 0 then throw .noTime
  let compilers ← compilers host fs s.programs
  return ⟨host.here, Fetcher.files host.here.cwd host.remote, compilers, s.options⟩

/-- The sources to build and the pipeline for them. -/
def plan (s : Settings) (host : Host) (fs : FileSystem) : Except Fatal (List Source × Pipeline) :=
  match Manifest.load fs host.here.cwd s.manifest with
  | .error fault => .error (.manifest s.manifest fault)
  | .ok sources => (s.pipeline host fs).map fun p => (sources, p)

end Settings

/-- How a run ends. -/
inductive Ending where
  | finished (summary : Pipeline.Summary)
  | failed (fatal : Fatal)
  /-- The time for a compiler could not be kept, and everything was given up. -/
  | abandoned

/-- Do what the settings ask for. -/
def run (host : Host) (s : Settings) (fs : FileSystem) : FileSystem × Ending :=
  match s.plan host fs with
  | .error fatal => (fs, .failed fatal)
  | .ok (sources, p) =>
    match p.run sources fs with
    | (fs', .finished summary) => (fs', .finished summary)
    | (fs', .failed f) => (fs', .failed (.aborted f))
    | (fs', .abandoned) => (fs', .abandoned)

/-- A text with blanks behind it up to a width. -/
def padded (width : Nat) (s : Text) : Text := s ++ List.replicate (width - s.length) ' '

/-- What is told about a target. -/
def targetText (t : Target) (status : Pipeline.TargetStatus) : Text :=
  t.label ++ '=' ::
    match status with
    | .built bytes => Text.decimal bytes ++ ['B']
    | .noRules => ['-']
    | .failed _ => "FAILED".toList

/-- What is told about a source, in one line. -/
def resultLine (r : Pipeline.BuildResult) : Text :=
  let status :=
    match r.outcome with
    | .fetchFailed reason => "FETCH FAILED: ".toList ++ reason
    | .empty => "EMPTY".toList
    | .extracted => Text.joinWith [' '] (r.targets.map fun (t, status) => targetText t status)
  let format := match r.format? with | some f => f.name | none => ['-']
  padded 32 r.name ++ ' ' :: padded 13 format ++ ' ' :: status ++ ['\n']

/-- What is told at the end of a run: a line for every source, and the counts. -/
def summaryText (s : Pipeline.Summary) : Text :=
  s.results.flatMap resultLine ++ '\n' :: Text.decimal s.succeeded ++ " succeeded, ".toList ++
    Text.decimal s.failed ++ " failed, ".toList ++ Text.decimal s.emptied ++ " empty, ".toList ++
    Text.decimal s.orphans ++ " orphans removed\n".toList

/-- What a command line leaves behind besides files. -/
structure Answer where
  exitCode : Nat
  /-- What is written to the standard output.  The text of the help is left out: the reader of
  arguments words it. -/
  output : Text
  fatal? : Option Text

/-- The answer to an ending: only what keeps a run from starting makes the exit code one. -/
def Ending.answer : Ending → Answer
  | finished summary => ⟨0, summaryText summary, none⟩
  | failed fatal => ⟨1, [], some fatal.report⟩
  | abandoned => ⟨101, [], none⟩

/-- The name and version of the program. -/
def versionText : Text := "ruleset-forge 0.1.0\n".toList

/-- Carry out a command line. -/
def execute (host : Host) (environment : Text → Option Text) (arguments : List Text)
    (fs : FileSystem) : FileSystem × Answer :=
  match parse arguments environment with
  | none => (fs, ⟨2, [], none⟩)
  | some .version => (fs, ⟨0, versionText, none⟩)
  | some .help => (fs, ⟨0, [], none⟩)
  | some (.run settings) =>
    let (fs', ending) := run host settings fs
    (fs', ending.answer)

end RuleSets.CommandLine
