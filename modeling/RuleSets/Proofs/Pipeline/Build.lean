import RuleSets.Proofs.Pipeline.Task

/-!
# Building sources

Building the sources of a run does all their tasks: `buildAll_spec` says which results come out and
which files are left, in terms of the answers that the fetcher gives during the run (`answers`).
-/

namespace RuleSets.Pipeline

variable {p : Pipeline} {effects : Effects} {fs : FileSystem} {t : Target} {c : Compiler}
  {name : Text} {b : Bucket}

/-- Whether all compilers of a pipeline are functions of their sources. -/
def Computes (p : Pipeline) (effects : Effects) : Prop :=
  ∀ tc ∈ p.compilers, tc.2.Computes p.here.cwd p.options.compile.timeout (effects tc.2)

/-! ### One target -/

theorem discard_eq (hadm : ∀ role, fs.Admits p.here.cwd (p.options.filePath t name role)) :
    p.discard (p.options.artifactPath t name) fs =
      if p.options.compile.strict then
        (fs.put (p.options.place p.here.cwd t name .tmp) none).put
          (p.options.place p.here.cwd t name .artifact) none
      else fs := by
  have htmp : fs.Admits p.here.cwd (p.options.artifactPath t name).tmp := hadm .tmp
  have hout : fs.Admits p.here.cwd (p.options.artifactPath t name) := hadm .artifact
  rw [discard]
  split
  · rw [htmp.discard_eq, (hout.put htmp.file (by simp)).discard_eq]
    rfl
  · rfl

theorem discard_done (hname : Manifest.isSafeName name = true)
    (hadm : ∀ role, fs.Admits p.here.cwd (p.options.filePath t name role)) :
    Task.Done ⟨t, c, name, none⟩ effects p.options p.here.cwd fs
      (p.discard (p.options.artifactPath t name) fs) := by
  rw [discard_eq hadm]
  cases hs : p.options.compile.strict with
  | false =>
    refine ⟨fun role => ?_, fun l hl => rfl⟩
    cases role <;> simp only [Task.place, Task.entry, hs] <;> rfl
  | true =>
    rw [if_pos rfl]
    constructor
    · intro role
      simp only [Task.place, Task.entry, hs, Options.get?_put_place hname]
      cases role <;> rfl
    · intro l hl
      have hl (role : Role) : l ≠ p.options.place p.here.cwd t name role := hl role
      rw [FileSystem.get?_put_of_ne (hl .artifact), FileSystem.get?_put_of_ne (hl .tmp)]

/-- The task of a target for a bucket. -/
def taskOf (p : Pipeline) (t : Target) (c : Compiler) (name : Text) (b : Bucket) : Task :=
  ⟨t, c, name, if t.hasContent b then some (t.render b p.options.version) else none⟩

theorem admits_written {text : Text} {fs₁ : FileSystem} {executable : Bool}
    (hadm : ∀ role, fs.Admits p.here.cwd (p.options.filePath t name role))
    (hfs₁ : fs.put (p.options.place p.here.cwd t name .source)
      (some (.file (Utf8.encode text) executable)) = fs₁) (role : Role) :
    fs₁.Admits p.here.cwd (p.options.filePath t name role) ∧
      (fs₁.put (p.options.place p.here.cwd t name .tmp) none).Admits p.here.cwd
        (p.options.filePath t name role) := by
  have hadm₁ (role : Role) : fs₁.Admits p.here.cwd (p.options.filePath t name role) := by
    rw [← hfs₁]
    exact (hadm role).put (hadm .source).file (by simp)
  exact ⟨hadm₁ role, (hadm₁ role).put (hadm₁ .tmp).file (by simp)⟩

section
variable {text : Text} (hname : Manifest.isSafeName name = true)
  (hadm : ∀ role, fs.Admits p.here.cwd (p.options.filePath t name role))
include hname hadm

theorem compile_spec (hc : c.Computes p.here.cwd p.options.compile.timeout (effects c))
    {fs₁ : FileSystem} {executable : Bool}
    (hfs₁ : fs.put (p.options.place p.here.cwd t name .source)
      (some (.file (Utf8.encode text) executable)) = fs₁) :
    let attempt := c.compile p.here p.options.compile (p.options.sourcePath t name)
      (p.options.artifactPath t name) fs₁
    attempt.outcome = (effects c (Utf8.encode text)).outcome c (p.options.filePath t name .tmp) p.here
      p.options.compile.timeout ∧
    (attempt.outcome ≠ .abandoned → attempt.final fs₁ =
      (fs₁.put (p.options.place p.here.cwd t name .tmp) none).put
        (p.options.place p.here.cwd t name .artifact)
        ((effects c (Utf8.encode text)).result p.options.compile.strict
          (fs.get? (p.options.place p.here.cwd t name .artifact)))) := by
  have hadm₁ (role : Role) := (admits_written hadm hfs₁ role).1
  have hadm₂ (role : Role) := (admits_written hadm hfs₁ role).2
  have hwritten : (fs₁.put (p.options.place p.here.cwd t name .tmp) none).get?
      (p.options.place p.here.cwd t name .source) = some (.file (Utf8.encode text) executable) := by
    rw [Options.get?_put_place hname, if_neg (by decide), ← hfs₁, FileSystem.get?_put_self]
  have hold : fs₁.get? (p.options.place p.here.cwd t name .artifact) =
      fs.get? (p.options.place p.here.cwd t name .artifact) := by
    rw [← hfs₁, Options.get?_put_place hname, if_neg (by decide)]
  have hread := (hadm₂ .source).read_eq_ok.2 ⟨executable, hwritten⟩
  have hshows := hc _ _ _ _ hread (hadm₂ .tmp) FileSystem.get?_put_self
  obtain ⟨houtcome, hfinal⟩ :=
    Compiler.compile_of_shows (o := p.options.compile) (hadm₁ .artifact) (hadm₁ .tmp) hshows
  refine ⟨houtcome, fun h => (hfinal h).trans ?_⟩
  rw [← hold]
  rfl

theorem compiled_done {fs₁ fs₂ : FileSystem}
    (hfs₁ : fs.put (p.options.place p.here.cwd t name .source) (some (.file (Utf8.encode text)
      (FileSystem.isExecutable (fs.get? (p.options.place p.here.cwd t name .source))))) = fs₁)
    (hfs₂ : (fs₁.put (p.options.place p.here.cwd t name .tmp) none).put
      (p.options.place p.here.cwd t name .artifact)
      ((effects c (Utf8.encode text)).result p.options.compile.strict
        (fs.get? (p.options.place p.here.cwd t name .artifact))) = fs₂) :
    Task.Done ⟨t, c, name, some text⟩ effects p.options p.here.cwd fs
      (if p.options.keepSources then fs₂
        else fs₂.discard p.here.cwd (p.options.sourcePath t name)) := by
  have hart : fs₂.get? (p.options.place p.here.cwd t name .artifact) =
      (effects c (Utf8.encode text)).result p.options.compile.strict
        (fs.get? (p.options.place p.here.cwd t name .artifact)) := by
    rw [← hfs₂, FileSystem.get?_put_self]
  have htmp : fs₂.get? (p.options.place p.here.cwd t name .tmp) = none := by
    rw [← hfs₂, Options.get?_put_place hname, if_neg (by decide), FileSystem.get?_put_self]
  have hsource : fs₂.get? (p.options.place p.here.cwd t name .source) =
      some (.file (Utf8.encode text)
        (FileSystem.isExecutable (fs.get? (p.options.place p.here.cwd t name .source)))) := by
    rw [← hfs₂, Options.get?_put_place hname, if_neg (by decide), Options.get?_put_place hname,
      if_neg (by decide), ← hfs₁, FileSystem.get?_put_self]
  have hframe (l : Location) (hl : ∀ role, l ≠ p.options.place p.here.cwd t name role) :
      fs₂.get? l = fs.get? l := by
    rw [← hfs₂, ← hfs₁, FileSystem.get?_put_of_ne (hl .artifact), FileSystem.get?_put_of_ne (hl .tmp),
      FileSystem.get?_put_of_ne (hl .source)]
  have hsrc : fs₂.Admits p.here.cwd (p.options.sourcePath t name) := by
    have hadm₂ (role : Role) := (admits_written hadm hfs₁ role).2
    rw [← hfs₂]
    exact (hadm₂ .source).put (hadm₂ .artifact).file
      (Compiler.Effect.result_ne_directory (hadm .artifact).get?_ne_directory)
  cases hk : p.options.keepSources with
  | true =>
    refine ⟨fun role => ?_, hframe⟩
    cases role with
    | artifact => exact hart
    | tmp => exact htmp
    | source =>
      simp only [Task.entry, hk, if_true]
      exact hsource
  | false =>
    rw [if_neg Bool.false_ne_true, hsrc.discard_eq]
    constructor
    · intro role
      show (fs₂.put (p.options.place p.here.cwd t name .source) none).get?
        (p.options.place p.here.cwd t name role) = _
      rw [Options.get?_put_place hname]
      cases role with
      | artifact => exact (if_neg (by decide)).trans hart
      | tmp => exact (if_neg (by decide)).trans htmp
      | source => simp only [Task.entry, hk, if_true, Bool.false_eq_true, if_false]
    · intro l hl
      exact (FileSystem.get?_put_of_ne (hl .source)).trans (hframe l hl)

/-- Building a target does its task, unless the compiler is abandoned. -/
theorem buildTarget_spec (hc : c.Computes p.here.cwd p.options.compile.timeout (effects c))
    (b : Bucket) :
    (p.buildTarget t c name b fs).2 = (p.taskOf t c name b).status? effects p.options p.here ∧
      ((p.buildTarget t c name b fs).2 ≠ none →
        (p.taskOf t c name b).Done effects p.options p.here.cwd fs
          (p.buildTarget t c name b fs).1) := by
  unfold buildTarget taskOf
  cases hcontent : t.hasContent b with
  | false => exact ⟨rfl, fun _ => discard_done hname hadm⟩
  | true =>
    obtain ⟨text, htext⟩ : ∃ text, t.render b p.options.version = text := ⟨_, rfl⟩
    obtain ⟨fs₁, hfs₁⟩ : ∃ fs₁, fs.put (p.options.place p.here.cwd t name .source)
      (some (.file (Utf8.encode text) (FileSystem.isExecutable
        (fs.get? (p.options.place p.here.cwd t name .source))))) = fs₁ := ⟨_, rfl⟩
    have hwrite : fs.write p.here.cwd (p.options.sourcePath t name) (Utf8.encode text) = .ok fs₁ :=
      ((hadm .source).write_eq _).trans (congrArg Except.ok hfs₁)
    obtain ⟨houtcome, hfinal⟩ := compile_spec hname hadm hc hfs₁
    obtain ⟨attempt, hattempt⟩ : ∃ attempt, c.compile p.here p.options.compile
      (p.options.sourcePath t name) (p.options.artifactPath t name) fs₁ = attempt := ⟨_, rfl⟩
    simp only [hattempt] at houtcome hfinal
    simp only [Bool.not_true, Bool.false_eq_true, if_false, htext, hwrite, hattempt, if_true,
      Task.status?, ← houtcome]
    rcases ho : attempt.outcome with n | f | _
    · exact ⟨rfl, fun _ => compiled_done hname hadm hfs₁ (hfinal (by rw [ho]; simp)).symm⟩
    · exact ⟨rfl, fun _ => compiled_done hname hadm hfs₁ (hfinal (by rw [ho]; simp)).symm⟩
    · exact ⟨rfl, fun h => absurd rfl h⟩

end

/-! ### All targets of a source -/

section
variable {cs : List (Target × Compiler)} (hname : Manifest.isSafeName name = true)
  (hnodup : (cs.map (·.1)).Nodup)
  (hadm : ∀ tc ∈ cs, ∀ role, fs.Admits p.here.cwd (p.options.filePath tc.1 name role))
include hname hnodup hadm

variable (effects) in
theorem clear_spec : AllDone (cs.map fun tc => ⟨tc.1, tc.2, name, none⟩) effects p.options p.here.cwd
    fs ((cs.map (·.1)).foldl (fun fs t => p.discard (p.options.artifactPath t name) fs) fs) := by
  induction cs generalizing fs with
  | nil => exact .nil fs
  | cons tc cs ih =>
    rw [List.map_cons, List.nodup_cons] at hnodup
    have hdone : Task.Done ⟨tc.1, tc.2, name, none⟩ effects p.options p.here.cwd fs _ :=
      discard_done hname (hadm tc (List.mem_cons_self ..))
    have hsame := hdone.sameDirectories (hadm tc (List.mem_cons_self ..))
    have hrest := ih hnodup.2 fun tc' htc' role =>
      (hadm tc' (List.mem_cons_of_mem _ htc') role).congr hsame
    refine .cons hdone hrest hname fun x hx => ?_
    obtain ⟨tc', htc', rfl⟩ := List.mem_map.1 hx
    exact ⟨rfl, fun ht : tc'.1 = tc.1 => hnodup.1 (List.mem_map.2 ⟨tc', htc', ht⟩)⟩

theorem buildTargets_spec
    (hc : ∀ tc ∈ cs, tc.2.Computes p.here.cwd p.options.compile.timeout (effects tc.2)) :
    (p.buildTargets name b cs fs).2 = (cs.mapM fun tc =>
        ((p.taskOf tc.1 tc.2 name b).status? effects p.options p.here).map (tc.1, ·)) ∧
      ((p.buildTargets name b cs fs).2 ≠ none →
        AllDone (cs.map fun tc => p.taskOf tc.1 tc.2 name b) effects p.options p.here.cwd fs
          (p.buildTargets name b cs fs).1) := by
  induction cs generalizing fs with
  | nil => exact ⟨rfl, fun _ => .nil fs⟩
  | cons tc cs ih =>
    obtain ⟨t, c⟩ := tc
    rw [List.map_cons, List.nodup_cons] at hnodup
    obtain ⟨hstatus, hdone⟩ := buildTarget_spec hname (hadm (t, c) (List.mem_cons_self ..))
      (hc (t, c) (List.mem_cons_self ..)) b
    rw [buildTargets, List.mapM_cons]
    rcases hb : p.buildTarget t c name b fs with ⟨fs₁, _ | status⟩
    · rw [hb] at hstatus
      dsimp only at hstatus ⊢
      rw [← hstatus]
      exact ⟨rfl, fun h => absurd rfl h⟩
    · rw [hb] at hstatus hdone
      dsimp only at hstatus hdone ⊢
      have hdone := hdone (by simp)
      have hsame := hdone.sameDirectories (hadm (t, c) (List.mem_cons_self ..))
      obtain ⟨hstatuses, hrest⟩ := ih hnodup.2
        (fun tc' htc' role => (hadm tc' (List.mem_cons_of_mem _ htc') role).congr hsame)
        (fun tc' htc' => hc tc' (List.mem_cons_of_mem _ htc'))
      rw [← hstatus, ← hstatuses]
      refine ⟨?_, fun h => .cons hdone (hrest fun hn => h (by rw [hn]; rfl)) hname fun x hx => ?_⟩
      · cases (p.buildTargets name b cs fs₁).2 <;> rfl
      · obtain ⟨tc', htc', rfl⟩ := List.mem_map.1 hx
        exact ⟨rfl, fun ht : tc'.1 = t => hnodup.1 (List.mem_map.2 ⟨tc', htc', ht⟩)⟩

end

/-! ### Sources -/

/-- The bucket of a source's text. -/
def bucketOf (hint : Hint) (text : Text) : Bucket := extract (Format.detect hint text) text

/-- The task of a target for a source, by what the fetcher answers. -/
def task (p : Pipeline) (s : Source) (answer : Except Failure Text) (tc : Target × Compiler) : Task :=
  match answer with
  | .error _ => ⟨tc.1, tc.2, s.name, none⟩
  | .ok text => p.taskOf tc.1 tc.2 s.name (bucketOf s.hint text)

/-- Whether the compiler of a target leaves a product for a source: its text was fetched and has
content for the target, and the compiler ends well in time and leaves a file with something in it. -/
def Yields (p : Pipeline) (effects : Effects) (t : Target) (c : Compiler) (s : Source)
    (answer : Except Failure Text) (product : Compiler.Product) : Prop :=
  ∃ text, answer = .ok text ∧ t.hasContent (bucketOf s.hint text) = true ∧
    (effects c (Utf8.encode (t.render (bucketOf s.hint text) p.options.version))).product? =
      some product

/-- The result of a source, by what the fetcher answers; there is none if a compiler is abandoned. -/
def result? (p : Pipeline) (effects : Effects) (s : Source) :
    Except Failure Text → Option BuildResult
  | .error f => some ⟨s.name, none, [], .fetchFailed f.report, []⟩
  | .ok text =>
    let format := Format.detect s.hint text
    let b := bucketOf s.hint text
    if b.isEmpty then some ⟨s.name, some format, [], .empty, []⟩
    else (p.compilers.mapM fun tc =>
      ((p.taskOf tc.1 tc.2 s.name b).status? effects p.options p.here).map (tc.1, ·)).map
        (⟨s.name, some format, b.counts, .extracted, ·⟩)

/-- The sources of a run with what the fetcher answers in the states that the run reaches. -/
def answers (p : Pipeline) : List Source → FileSystem → List (Source × Except Failure Text)
  | [], _ => []
  | s :: rest, fs => (s, p.fetch fs s.url) :: p.answers rest (p.build s fs).1

theorem answers_map_fst (p : Pipeline) (sources : List Source) (fs : FileSystem) :
    (p.answers sources fs).map (·.1) = sources := by
  induction sources generalizing fs with
  | nil => rfl
  | cons s rest ih => rw [answers, List.map_cons, ih]

theorem yields_iff {s : Source} {answer : Except Failure Text} {product : Compiler.Product} :
    p.Yields effects t c s answer product ↔ ∃ text, (p.task s answer (t, c)).text? = some text ∧
      (effects c (Utf8.encode text)).product? = some product := by
  cases answer with
  | error f =>
    constructor
    · rintro ⟨text, ⟨⟩, -⟩
    · rintro ⟨text, ⟨⟩, -⟩
  | ok text =>
    constructor
    · rintro ⟨text, ⟨⟩, hcontent, hproduct⟩
      exact ⟨_, if_pos hcontent, hproduct⟩
    · rintro ⟨text', htext, hproduct⟩
      simp only [task, taskOf] at htext
      split at htext
      · rename_i hcontent
        cases htext
        exact ⟨text, rfl, hcontent, hproduct⟩
      · cases htext

theorem task_target (p : Pipeline) (s : Source) (answer : Except Failure Text)
    (tc : Target × Compiler) : (p.task s answer tc).target = tc.1 ∧
      (p.task s answer tc).compiler = tc.2 ∧ (p.task s answer tc).name = s.name := by
  cases answer with
  | error f => exact ⟨rfl, rfl, rfl⟩
  | ok text => exact ⟨rfl, rfl, rfl⟩

theorem hasContent_of_isEmpty (h : b.isEmpty = true) (t : Target) : t.hasContent b = false := by
  have hcount (k : Kind) : b.count k = 0 := by
    rw [Bucket.count, Bucket.values, List.isEmpty_iff.1 h]
    rfl
  rw [Target.hasContent, Bucket.hasAny, List.any_eq_false]
  intro k _
  rw [hcount]
  simp

def allTasks (p : Pipeline) (sources : List Source) (fs : FileSystem) : List Task :=
  (p.answers sources fs).flatMap fun sa => p.compilers.map (p.task sa.1 sa.2)

theorem mem_of_mem_answers {sources : List Source} {sa : Source × Except Failure Text}
    (h : sa ∈ p.answers sources fs) : sa.1 ∈ sources := by
  rw [← p.answers_map_fst sources fs]
  exact List.mem_map_of_mem h

theorem mem_allTasks {sources : List Source} {x : Task} : x ∈ p.allTasks sources fs ↔
    ∃ sa ∈ p.answers sources fs, ∃ tc ∈ p.compilers, p.task sa.1 sa.2 tc = x := by
  simp only [allTasks, List.mem_flatMap, List.mem_map]

theorem of_mem_allTasks {sources : List Source} {x : Task} (h : x ∈ p.allTasks sources fs) :
    x.target ∈ p.targets ∧ ∃ s ∈ sources, x.name = s.name := by
  obtain ⟨sa, hsa, tc, htc, rfl⟩ := mem_allTasks.1 h
  obtain ⟨ht, -, hn⟩ := p.task_target sa.1 sa.2 tc
  exact ⟨ht ▸ List.mem_map_of_mem htc, sa.1, mem_of_mem_answers hsa, hn⟩

section
variable (hc : p.Computes effects) (hnodup : p.targets.Nodup)
include hc hnodup

theorem build_spec {s : Source} (hname : Manifest.isSafeName s.name = true)
    (hadm : ∀ t ∈ p.targets, ∀ role, fs.Admits p.here.cwd (p.options.filePath t s.name role)) :
    (p.build s fs).2 = p.result? effects s (p.fetch fs s.url) ∧
      ((p.build s fs).2 ≠ none → AllDone (p.compilers.map (p.task s (p.fetch fs s.url))) effects
        p.options p.here.cwd fs (p.build s fs).1) := by
  have hadm' : ∀ tc ∈ p.compilers, ∀ role,
      fs.Admits p.here.cwd (p.options.filePath tc.1 s.name role) :=
    fun tc htc => hadm tc.1 (List.mem_map_of_mem htc)
  have hclear := clear_spec effects hname hnodup hadm'
  rw [build]
  cases p.fetch fs s.url with
  | error f => exact ⟨rfl, fun _ => hclear⟩
  | ok text =>
    dsimp only
    rw [show extractDocument (Format.ofDocument s.hint (Document.parse text) text)
      (Document.parse text) text = bucketOf s.hint text from rfl, result?]
    cases hempty : (bucketOf s.hint text).isEmpty with
    | true =>
      have htasks : p.compilers.map (p.task s (.ok text)) =
          p.compilers.map fun tc => ⟨tc.1, tc.2, s.name, none⟩ := by
        refine List.map_congr_left fun tc _ => ?_
        simp only [task, taskOf, hasContent_of_isEmpty hempty, Bool.false_eq_true, if_false]
      rw [htasks]
      exact ⟨rfl, fun _ => hclear⟩
    | false =>
      obtain ⟨hstatuses, hdone⟩ := buildTargets_spec (b := bucketOf s.hint text) hname hnodup hadm' hc
      rw [if_neg Bool.false_ne_true, if_neg Bool.false_ne_true, ← hstatuses]
      exact ⟨rfl, fun h => hdone fun hn => h (by rw [hn]; rfl)⟩

theorem buildAll_spec {sources : List Source} (hnames : (sources.map (·.name)).Nodup)
    (hsafe : ∀ s ∈ sources, Manifest.isSafeName s.name = true)
    (hadm : p.options.Admits p.here.cwd p.targets (sources.map (·.name)) fs) :
    (p.buildAll sources fs).2 =
        (p.answers sources fs).mapM (fun sa => p.result? effects sa.1 sa.2) ∧
      ((p.buildAll sources fs).2 ≠ none →
        AllDone (p.allTasks sources fs) effects p.options p.here.cwd fs
          (p.buildAll sources fs).1) := by
  induction sources generalizing fs with
  | nil => exact ⟨rfl, fun _ => .nil fs⟩
  | cons s rest ih =>
    rw [List.map_cons, List.nodup_cons] at hnames
    have hname := hsafe s (List.mem_cons_self ..)
    obtain ⟨hresult, hdone⟩ := build_spec hc hnodup hname fun t ht =>
      hadm t ht s.name (List.mem_cons_self ..)
    rw [allTasks, answers, List.mapM_cons, buildAll]
    rcases hb : p.build s fs with ⟨fs₁, _ | result⟩
    · rw [hb] at hresult
      dsimp only at hresult ⊢
      rw [← hresult]
      exact ⟨rfl, fun h => absurd rfl h⟩
    · rw [hb] at hresult hdone
      dsimp only at hresult hdone ⊢
      have hdone := hdone (by simp)
      -- No task makes or deletes a directory, so the files of the other sources can still be reached.
      have hsame := hdone.sameDirectories fun x hx role => by
        obtain ⟨tc, htc, rfl⟩ := List.mem_map.1 hx
        obtain ⟨ht, -, hn⟩ := p.task_target s (p.fetch fs s.url) tc
        rw [ht, hn]
        exact hadm tc.1 (List.mem_map_of_mem htc) s.name (List.mem_cons_self ..) role
      obtain ⟨hresults, hrest⟩ := ih hnames.2 (fun s' hs' => hsafe s' (List.mem_cons_of_mem _ hs'))
        fun t ht n hn role => (hadm t ht n (List.mem_cons_of_mem _ hn) role).congr hsame
      rw [← hresult, ← hresults]
      refine ⟨?_, fun h => ?_⟩
      · cases (p.buildAll rest fs₁).2 <;> rfl
      · refine hdone.append (hrest fun hn => h (by rw [hn]; rfl)) (fun x hx => ?_) fun x hx y hy _ => ?_
        · rcases List.mem_append.1 hx with hx | hx
          · obtain ⟨tc, -, rfl⟩ := List.mem_map.1 hx
            rw [(p.task_target s _ tc).2.2]
            exact hname
          · obtain ⟨-, s', hs', hn⟩ := of_mem_allTasks hx
            rw [hn]
            exact hsafe s' (List.mem_cons_of_mem _ hs')
        · obtain ⟨tc, -, rfl⟩ := List.mem_map.1 hx
          obtain ⟨-, s', hs', hn⟩ := of_mem_allTasks hy
          rw [(p.task_target s _ tc).2.2, hn]
          exact fun he => hnames.1 (List.mem_map.2 ⟨s', hs', he.symm⟩)

end

end RuleSets.Pipeline
