import RuleSets.Fetch
import RuleSets.Manifest
import RuleSets.Pipeline.Orphan
import RuleSets.Pipeline.Result
import RuleSets.Source.Extract

/-!
# The pipeline

Every source is fetched, read and compiled for every enabled target, one source after the other;
then the orphans are deleted.  Whatever goes wrong with a source is told in its result and does not
keep the others from being built; only directories that cannot be made end a run at once.
-/

namespace RuleSets

/-- A pipeline: where texts come from, and the enabled targets with their compilers, in
build order. -/
structure Pipeline where
  here : Surroundings
  fetch : Fetcher
  compilers : List (Target × Compiler)
  options : Pipeline.Options

namespace Pipeline

/-- Enable a target with a compiler, in the place of any it had. -/
def withCompiler (p : Pipeline) (t : Target) (c : Compiler) : Pipeline :=
  let others := p.compilers.filter (·.1 != t)
  { p with compilers := Target.all.filterMap fun u =>
      if u = t then some (t, c) else others.find? (·.1 == u) }

/-- The enabled targets, in build order. -/
def targets (p : Pipeline) : List Target := p.compilers.map (·.1)

/-- Make the directory of emitted sources and those of compiled files. -/
def prepare (p : Pipeline) (fs : FileSystem) : FileSystem × Except IoError Unit :=
  let dirs := p.options.workDir :: p.targets.map p.options.artifactDir
  dirs.foldl (fun (fs, r) dir =>
    match r with
    | .ok () => fs.makeDirectories p.here.cwd dir
    | .error e => (fs, .error e)) (fs, .ok ())

/-- In strict mode, take away a compiled file that has no rules behind it any more. -/
def discard (p : Pipeline) (artifact : Path) (fs : FileSystem) : FileSystem :=
  if p.options.compile.strict then
    (fs.discard p.here.cwd artifact.tmp).discard p.here.cwd artifact
  else fs

/-- In strict mode, take away all compiled files for a name. -/
def clear (p : Pipeline) (name : Text) (fs : FileSystem) : FileSystem :=
  p.targets.foldl (fun fs t => p.discard (p.options.artifactPath t name) fs) fs

/-- Build one target of a source.  There is no status when the compiler was abandoned. -/
def buildTarget (p : Pipeline) (t : Target) (c : Compiler) (name : Text) (b : Bucket)
    (fs : FileSystem) : FileSystem × Option TargetStatus :=
  let cwd := p.here.cwd
  let artifact := p.options.artifactPath t name
  let source := p.options.sourcePath t name
  if !t.hasContent b then (p.discard artifact fs, some .noRules)
  else
    match fs.write cwd source (Utf8.encode (t.render b p.options.version)) with
    | .error e => (p.discard artifact fs, some (.failed (Failure.io e).report))
    | .ok fs₁ =>
      let attempt := c.compile p.here p.options.compile source artifact fs₁
      let fs₂ := attempt.final fs₁
      let fs₃ := if p.options.keepSources then fs₂ else fs₂.discard cwd source
      match attempt.outcome with
      | .abandoned => (fs₂, none)
      | .built bytes => (fs₃, some (.built bytes))
      | .failed f => (fs₃, some (.failed f.report))

/-- Build the given targets of a source, one after the other. -/
def buildTargets (p : Pipeline) (name : Text) (b : Bucket) :
    List (Target × Compiler) → FileSystem → FileSystem × Option (List (Target × TargetStatus))
  | [], fs => (fs, some [])
  | (t, c) :: rest, fs =>
    match p.buildTarget t c name b fs with
    | (fs₁, none) => (fs₁, none)
    | (fs₁, some status) =>
      let (fs₂, statuses) := p.buildTargets name b rest fs₁
      (fs₂, statuses.map ((t, status) :: ·))

/-- Build a source for every enabled target. -/
def build (p : Pipeline) (s : Source) (fs : FileSystem) : FileSystem × Option BuildResult :=
  match p.fetch fs s.url with
  | .error f => (p.clear s.name fs, some ⟨s.name, none, [], .fetchFailed f.report, []⟩)
  | .ok text =>
    let doc := Document.parse text
    let format := Format.ofDocument s.hint doc text
    let b := extractDocument format doc text
    if b.isEmpty then (p.clear s.name fs, some ⟨s.name, some format, [], .empty, []⟩)
    else
      let (fs', statuses) := p.buildTargets s.name b p.compilers fs
      (fs', statuses.map (⟨s.name, some format, b.counts, .extracted, ·⟩))

/-- Build sources, one after the other. -/
def buildAll (p : Pipeline) : List Source → FileSystem → FileSystem × Option (List BuildResult)
  | [], fs => (fs, some [])
  | s :: rest, fs =>
    match p.build s fs with
    | (fs₁, none) => (fs₁, none)
    | (fs₁, some result) =>
      let (fs₂, results) := p.buildAll rest fs₁
      (fs₂, results.map (result :: ·))

/-- What came of a run. -/
inductive Ran where
  | finished (summary : Summary)
  /-- A directory could not be made. -/
  | failed (failure : Failure)
  /-- A compiler was abandoned, and everything with it. -/
  | abandoned

/-- Make the directories, build every source, and delete the orphans. -/
def run (p : Pipeline) (sources : List Source) (fs : FileSystem) : FileSystem × Ran :=
  match p.prepare fs with
  | (fs₁, .error e) => (fs₁, .failed (.io e))
  | (fs₁, .ok ()) =>
    match p.buildAll sources fs₁ with
    | (fs₂, none) => (fs₂, .abandoned)
    | (fs₂, some results) =>
      let (fs₃, orphans) :=
        removeOrphans p.here.cwd p.options p.targets (sources.map (·.name)) fs₂
      (fs₃, .finished ⟨results, orphans⟩)

end Pipeline
end RuleSets
