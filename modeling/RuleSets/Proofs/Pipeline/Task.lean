import RuleSets.Pipeline
import RuleSets.Proofs.Compiler.Effect
import RuleSets.Proofs.Pipeline.FileName

/-!
# Tasks

A task is one target of one source.  It changes its own three files and nothing else (`Done`), and
what it makes of each of them depends on the file's previous content alone (`Task.entry`).  Since no
two tasks share a file, what several tasks leave does not depend on their order
(`AllDone.append`, `AllDone.eq`).
-/

namespace RuleSets.Pipeline

/-- What the compilers of a pipeline make of their sources. -/
abbrev Effects := Compiler → Bytes → Compiler.Effect

/-- One target of one source, with the text to be compiled if there is one. -/
structure Task where
  target : Target
  compiler : Compiler
  name : Text
  text? : Option Text

namespace Task

/-- What a task leaves of a file that held `old`. -/
def entry (x : Task) (effects : Effects) (o : Options) (role : Role) (old : Option Entry) :
    Option Entry :=
  match x.text?, role with
  | none, .source => old
  | none, _ => if o.compile.strict then none else old
  | some _, .tmp => none
  | some text, .artifact => (effects x.compiler (Utf8.encode text)).result o.compile.strict old
  | some text, .source =>
    if o.keepSources then some (.file (Utf8.encode text) (FileSystem.isExecutable old)) else none

/-- What is told of a task, unless its compiler is abandoned. -/
def status? (x : Task) (effects : Effects) (o : Options) (here : Surroundings) :
    Option TargetStatus :=
  match x.text? with
  | none => some .noRules
  | some text =>
    match (effects x.compiler (Utf8.encode text)).outcome x.compiler
      (o.filePath x.target x.name .tmp) here o.compile.timeout with
    | .abandoned => none
    | .built bytes => some (.built bytes)
    | .failed f => some (.failed f.report)

/-- The location of a file of a task. -/
def place (x : Task) (o : Options) (cwd : Location) (role : Role) : Location :=
  o.place cwd x.target x.name role

/-- Whether two tasks are for different targets or for different sources. -/
def Apart (x y : Task) : Prop := x.target = y.target → x.name ≠ y.name

/-- Whether a task turns one file system into another. -/
structure Done (x : Task) (effects : Effects) (o : Options) (cwd : Location) (fs fs' : FileSystem) :
    Prop where
  own : ∀ role, fs'.get? (x.place o cwd role) = x.entry effects o role (fs.get? (x.place o cwd role))
  frame : ∀ l, (∀ role, l ≠ x.place o cwd role) → fs'.get? l = fs.get? l

variable {x y : Task} {effects : Effects} {o : Options} {cwd : Location} {fs fs' : FileSystem}

theorem place_ne (hx : Manifest.isSafeName x.name = true)
    (hy : Manifest.isSafeName y.name = true) (hxy : x.Apart y) (r q : Role) :
    x.place o cwd r ≠ y.place o cwd q := fun h => by
  obtain ⟨ht, hn, -⟩ := Options.place_injective hx hy h
  exact hxy ht hn

theorem entry_tmp {old : Option Entry} (h : x.entry effects o .tmp old ≠ none) : old ≠ none := by
  unfold entry at h
  split at h
  · exact h
  · split at h
    · exact absurd rfl h
    · exact h
  · exact absurd rfl h
  · rename_i hrole
    cases hrole
  · rename_i hrole
    cases hrole

theorem entry_ne_directory {role : Role} {old : Option Entry} (h : old ≠ some .directory) :
    x.entry effects o role old ≠ some .directory := by
  unfold entry
  split
  · exact h
  · split
    · simp
    · exact h
  · simp
  · exact Compiler.Effect.result_ne_directory h
  · split <;> simp

end Task

/-! ### Several tasks -/

/-- Whether tasks, in any order, turn one file system into another. -/
structure AllDone (xs : List Task) (effects : Effects) (o : Options) (cwd : Location)
    (fs fs' : FileSystem) : Prop where
  own : ∀ x ∈ xs, ∀ role,
    fs'.get? (x.place o cwd role) = x.entry effects o role (fs.get? (x.place o cwd role))
  frame : ∀ l, (∀ x ∈ xs, ∀ role, l ≠ x.place o cwd role) → fs'.get? l = fs.get? l

/-- Whether a file can be at all paths of some targets for some names. -/
def Options.Admits (o : Options) (cwd : Location) (targets : List Target) (names : List Text)
    (fs : FileSystem) : Prop :=
  ∀ t ∈ targets, ∀ n ∈ names, ∀ role, fs.Admits cwd (o.filePath t n role)

namespace AllDone

variable {xs ys : List Task} {effects : Effects} {o : Options} {cwd : Location}
  {fs fs' fs'' : FileSystem}

theorem nil (fs : FileSystem) : AllDone [] effects o cwd fs fs :=
  ⟨fun _ hx => absurd hx List.not_mem_nil, fun _ _ => rfl⟩

theorem of_done {x : Task} (h : x.Done effects o cwd fs fs') : AllDone [x] effects o cwd fs fs' where
  own y hy := by rw [List.mem_singleton.1 hy]; exact h.own
  frame l hl := h.frame l (hl x (List.mem_cons_self ..))

theorem append (hx : AllDone xs effects o cwd fs fs') (hy : AllDone ys effects o cwd fs' fs'')
    (hsafe : ∀ x ∈ xs ++ ys, Manifest.isSafeName x.name = true)
    (hapart : ∀ x ∈ xs, ∀ y ∈ ys, x.Apart y) : AllDone (xs ++ ys) effects o cwd fs fs'' := by
  have hne (x) (hxs : x ∈ xs) (y) (hys : y ∈ ys) (r q : Role) : x.place o cwd r ≠ y.place o cwd q :=
    Task.place_ne (hsafe x (List.mem_append_left _ hxs)) (hsafe y (List.mem_append_right _ hys))
      (hapart x hxs y hys) r q
  constructor
  · intro x hmem role
    rcases List.mem_append.1 hmem with hxs | hys
    · rw [hy.frame _ fun y hys q => hne x hxs y hys role q]
      exact hx.own x hxs role
    · rw [hy.own x hys role, hx.frame _ fun y hys' q => (hne y hys' x hys q role).symm]
  · intro l hl
    rw [hy.frame l fun y hys => hl y (List.mem_append_right _ hys),
      hx.frame l fun x hxs => hl x (List.mem_append_left _ hxs)]

theorem cons {x : Task} (hx : x.Done effects o cwd fs fs') (hy : AllDone ys effects o cwd fs' fs'')
    (hname : Manifest.isSafeName x.name = true)
    (hys : ∀ y ∈ ys, y.name = x.name ∧ y.target ≠ x.target) :
    AllDone (x :: ys) effects o cwd fs fs'' := by
  refine (of_done hx).append hy (fun y hmem => ?_) fun x' hx' y hmem ht => ?_
  · rcases List.mem_cons.1 hmem with rfl | hmem
    · exact hname
    · rw [(hys y hmem).1]
      exact hname
  · rw [List.mem_singleton.1 hx'] at ht
    exact absurd ht.symm (hys y hmem).2

/-- The order of tasks leaves no trace. -/
theorem eq (hx : AllDone xs effects o cwd fs fs') (hy : AllDone ys effects o cwd fs fs'')
    (h : ∀ x, x ∈ xs ↔ x ∈ ys) : fs' = fs'' := by
  refine OrderedMap.ext fun l => ?_
  by_cases hl : ∃ x ∈ xs, ∃ role, l = x.place o cwd role
  · obtain ⟨x, hmem, role, rfl⟩ := hl
    rw [hx.own x hmem role, hy.own x ((h x).1 hmem) role]
  · have hfree : ∀ x ∈ xs, ∀ role, l ≠ x.place o cwd role := fun x hmem role he =>
      hl ⟨x, hmem, role, he⟩
    rw [hx.frame l hfree, hy.frame l fun y hmem => hfree y ((h y).2 hmem)]

theorem sameDirectories (h : AllDone xs effects o cwd fs fs')
    (hfs : ∀ x ∈ xs, ∀ role, fs.Admits cwd (o.filePath x.target x.name role)) :
    FileSystem.SameDirectories fs fs' := by
  intro l
  rcases List.eq_nil_or_concat l with rfl | ⟨dir, name, rfl⟩
  · exact Iff.rfl
  rw [FileSystem.at?_eq_get? _ (by simp), FileSystem.at?_eq_get? _ (by simp)]
  by_cases hl : ∃ x ∈ xs, ∃ role, dir.concat name = x.place o cwd role
  · obtain ⟨x, hmem, role, he⟩ := hl
    have hold : fs.get? (x.place o cwd role) ≠ some .directory := (hfs x hmem role).get?_ne_directory
    rw [he, h.own x hmem role]
    exact ⟨fun hd => absurd hd hold, fun hd => absurd hd (Task.entry_ne_directory hold)⟩
  · rw [h.frame _ fun x hmem role he => hl ⟨x, hmem, role, he⟩]

end AllDone

theorem Task.Done.sameDirectories {x : Task} {effects : Effects} {o : Options} {cwd : Location}
    {fs fs' : FileSystem} (h : x.Done effects o cwd fs fs')
    (hfs : ∀ role, fs.Admits cwd (o.filePath x.target x.name role)) :
    FileSystem.SameDirectories fs fs' := by
  refine (AllDone.of_done h).sameDirectories fun y hy => ?_
  rw [List.mem_singleton.1 hy]
  exact hfs

end RuleSets.Pipeline
