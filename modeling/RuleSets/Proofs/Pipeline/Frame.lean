import RuleSets.Proofs.Compiler.Touch
import RuleSets.Proofs.Pipeline.Run

/-!
# What a run changes

Whatever comes of a run, it changes three kinds of locations: directories that it makes, the files of
its sources and targets, and orphans (`run_footprint`).  Nothing is asked of the files that are there;
the compilers touch nothing but their outputs, and the file system is a tree.  Where the names of the
sources are safe, the files of a run are those that `run_frame` tells.
-/

namespace RuleSets.Pipeline

open FileSystem

variable {p : Pipeline} {sources : List Source} {fs g : FileSystem} {t : Target} {c : Compiler}
  {name : Text} {b : Bucket} {l : Location}

/-! ### Building -/

theorem discard_modifies (p : Pipeline) (t : Target) (name : Text) (fs : FileSystem) :
    Modifies (fun l => ∃ role, l = p.options.place p.here.cwd t name role) fs
      (p.discard (p.options.artifactPath t name) fs) := by
  rw [discard]
  split
  · exact ((FileSystem.discard_modifies ..).mono fun l hl => ⟨.tmp, hl⟩).trans
      ((FileSystem.discard_modifies ..).mono fun l hl => ⟨.artifact, hl⟩)
  · exact .refl _ fs

/-- What is told of a target, by what an attempt to compile comes to. -/
def statusOf : Compiler.Outcome → Option TargetStatus
  | .built bytes => some (.built bytes)
  | .failed f => some (.failed f.report)
  | .abandoned => none

/-- Building a target comes to no attempt, and discards, or it compiles what it has emitted and may
take away the emitted source. -/
theorem buildTarget_cases (p : Pipeline) (t : Target) (c : Compiler) (name : Text) (b : Bucket)
    (fs : FileSystem) :
    (∃ status, (∀ n, status ≠ .built n) ∧ p.buildTarget t c name b fs =
      (p.discard (p.options.artifactPath t name) fs, some status)) ∨
    ∃ fs₁ attempt, t.hasContent b = true ∧
      fs.write p.here.cwd (p.options.sourcePath t name)
        (Utf8.encode (t.render b p.options.version)) = .ok fs₁ ∧
      c.compile p.here p.options.compile (p.options.sourcePath t name)
        (p.options.artifactPath t name) fs₁ = attempt ∧
      (p.buildTarget t c name b fs).2 = statusOf attempt.outcome ∧
      Modifies (· = p.options.place p.here.cwd t name .source) (attempt.final fs₁)
        (p.buildTarget t c name b fs).1 := by
  unfold buildTarget
  dsimp only
  cases hcontent : t.hasContent b with
  | false => exact .inl ⟨.noRules, by simp, rfl⟩
  | true =>
    rcases hw : fs.write p.here.cwd (p.options.sourcePath t name)
      (Utf8.encode (t.render b p.options.version)) with e | fs₁
    · exact .inl ⟨.failed (Failure.io e).report, by simp, rfl⟩
    refine .inr ⟨fs₁, _, rfl, rfl, rfl, ?_⟩
    obtain ⟨attempt, hattempt⟩ : ∃ attempt, c.compile p.here p.options.compile
      (p.options.sourcePath t name) (p.options.artifactPath t name) fs₁ = attempt := ⟨_, rfl⟩
    have hkept : Modifies (· = p.options.place p.here.cwd t name .source) (attempt.final fs₁)
        (if p.options.keepSources then attempt.final fs₁
          else (attempt.final fs₁).discard p.here.cwd (p.options.sourcePath t name)) := by
      split
      · exact .refl _ _
      · exact FileSystem.discard_modifies ..
    simp only [Bool.not_true, Bool.false_eq_true, if_false, hattempt]
    rcases ho : attempt.outcome with n | f | _
    · exact ⟨rfl, hkept⟩
    · exact ⟨rfl, hkept⟩
    · exact ⟨rfl, .refl _ _⟩

theorem buildTarget_modifies (t : Target) (name : Text) (b : Bucket)
    (hc : c.TouchesOnlyOutput p.here.cwd) (ht : fs.IsTree) :
    Modifies (fun l => ∃ role, l = p.options.place p.here.cwd t name role) fs
      (p.buildTarget t c name b fs).1 := by
  rcases p.buildTarget_cases t c name b fs with
    ⟨status, -, hb⟩ | ⟨fs₁, attempt, -, hw, rfl, -, hlast⟩
  · rw [hb]
    exact p.discard_modifies t name fs
  · have hwritten : Modifies (fun l => ∃ role, l = p.options.place p.here.cwd t name role) fs fs₁ :=
      (write_modifies hw).mono fun l hl => ⟨.source, hl⟩
    refine (hwritten.trans ((Compiler.compile_modifies hc (hwritten.tree ht)).mono ?_)).trans
      (hlast.mono fun l hl => ⟨.source, hl⟩)
    rintro l (hl | hl)
    · exact ⟨.tmp, hl⟩
    · exact ⟨.artifact, hl⟩

/-- Whether a location is that of a file of a source and one of some targets. -/
def OwnsFor (p : Pipeline) (targets : List Target) (name : Text) (l : Location) : Prop :=
  ∃ t ∈ targets, ∃ role, l = p.options.place p.here.cwd t name role

theorem buildTargets_modifies {cs : List (Target × Compiler)} (name : Text) (b : Bucket)
    (hc : ∀ tc ∈ cs, tc.2.TouchesOnlyOutput p.here.cwd) (ht : fs.IsTree) :
    Modifies (p.OwnsFor (cs.map (·.1)) name) fs (p.buildTargets name b cs fs).1 := by
  induction cs generalizing fs with
  | nil => exact .refl _ fs
  | cons tc cs ih =>
    obtain ⟨t, c⟩ := tc
    have hone : Modifies (p.OwnsFor (((t, c) :: cs).map (·.1)) name) fs
        (p.buildTarget t c name b fs).1 :=
      (buildTarget_modifies t name b (hc (t, c) (List.mem_cons_self ..)) ht).mono fun l hl =>
        ⟨t, List.mem_cons_self .., hl⟩
    have hrest : Modifies (p.OwnsFor (((t, c) :: cs).map (·.1)) name)
        (p.buildTarget t c name b fs).1
        (p.buildTargets name b cs (p.buildTarget t c name b fs).1).1 :=
      (ih (fun tc' htc' => hc tc' (List.mem_cons_of_mem _ htc')) (hone.tree ht)).mono
        fun l ⟨u, hu, hl⟩ => ⟨u, List.mem_cons_of_mem _ hu, hl⟩
    rw [buildTargets]
    rcases hb : p.buildTarget t c name b fs with ⟨fs₁, _ | status⟩ <;> rw [hb] at hone hrest
    · exact hone
    · exact hone.trans hrest

/-- Whether a location is that of a file of a source and an enabled target. -/
def Owns (p : Pipeline) (names : List Text) (l : Location) : Prop :=
  ∃ n ∈ names, p.OwnsFor p.targets n l

theorem clear_modifies (p : Pipeline) (name : Text) (ht : fs.IsTree) :
    Modifies (p.OwnsFor p.targets name) fs (p.clear name fs) :=
  Modifies.foldl id _ fs ht fun t htarget fs _ => (p.discard_modifies t name fs).mono fun _ hl =>
    ⟨t, htarget, hl⟩

section
variable (hc : ∀ tc ∈ p.compilers, tc.2.TouchesOnlyOutput p.here.cwd)
include hc

theorem build_modifies (s : Source) (ht : fs.IsTree) :
    Modifies (p.OwnsFor p.targets s.name) fs (p.build s fs).1 := by
  rw [build]
  cases p.fetch fs s.url with
  | error f => exact p.clear_modifies s.name ht
  | ok text =>
    dsimp only
    split
    · exact p.clear_modifies s.name ht
    · exact buildTargets_modifies s.name _ hc ht

theorem buildAll_modifies (sources : List Source) (ht : fs.IsTree) :
    Modifies (p.Owns (sources.map (·.name))) fs (p.buildAll sources fs).1 := by
  induction sources generalizing fs with
  | nil => exact .refl _ fs
  | cons s rest ih =>
    have hone : Modifies (p.Owns ((s :: rest).map (·.name))) fs (p.build s fs).1 :=
      (build_modifies hc s ht).mono fun l hl => ⟨s.name, List.mem_cons_self .., hl⟩
    have hrest : Modifies (p.Owns ((s :: rest).map (·.name))) (p.build s fs).1
        (p.buildAll rest (p.build s fs).1).1 :=
      (ih (hone.tree ht)).mono fun l ⟨n, hn, hl⟩ => ⟨n, List.mem_cons_of_mem _ hn, hl⟩
    rw [buildAll]
    rcases hb : p.build s fs with ⟨fs₁, _ | result⟩ <;> rw [hb] at hone hrest
    · exact hone
    · exact hone.trans hrest

end

/-! ### Sweeping -/

theorem removeFiles_modifies {cwd : Location} {dir : Path} {q : Text → Bool} (ht : fs.IsTree) :
    Modifies (fun l => ∃ file, q file = true ∧ l = dir.location cwd ++ [file]) fs
      (removeFiles cwd dir q fs).1 := by
  rw [removeFiles]
  rcases hlist : fs.list cwd dir with e | files
  · exact .refl _ fs
  refine Modifies.foldl Prod.fst _ (fs, 0) ht fun file hfile st _ => ?_
  obtain ⟨hmem, hq⟩ := List.mem_filter.1 hfile
  have hname := Path.location_join cwd dir (ht.isName_of_list hlist hmem)
  obtain ⟨st, n⟩ := st
  dsimp only
  rcases hr : st.remove cwd (dir.join ⟨file⟩) with e | fs'
  · exact .refl _ st
  · exact (remove_modifies hr).mono fun l hl => ⟨file, hq, hl.trans hname⟩

/-- Sweeping changes nothing but orphans. -/
theorem removeOrphans_modifies (cwd : Location) (o : Options) (targets : List Target)
    (names : List Text) (ht : fs.IsTree) :
    Modifies (Orphaned o cwd targets names) fs (removeOrphans cwd o targets names fs).1 := by
  refine Modifies.foldl Prod.fst _ (fs, 0) ht fun group hgroup st ht => ?_
  refine (removeFiles_modifies ht).mono ?_
  rintro l ⟨file, hq, hl⟩
  exact orphaned_iff.2 ⟨group, hgroup, file, hq, hl⟩

/-! ### Whole runs -/

theorem prepare_tree (p : Pipeline) (ht : fs.IsTree) : (p.prepare fs).1.IsTree :=
  prepare_induction (R := fun fs fs' => fs.IsTree → fs'.IsTree) (fun _ h => h)
    (fun _ _ _ h h' ht => h' (h ht)) (fun _ _ _ ht => makeDirectories_tree ht) fs ht

/-- Directories are made on the way to those of a run and nowhere else. -/
theorem prepare_frame (h : ∀ dir ∈ p.directories, ∀ q, dir.Above q → l ≠ q.location p.here.cwd) :
    (p.prepare fs).1.get? l = fs.get? l :=
  prepare_induction (R := fun fs fs' => fs'.get? l = fs.get? l) (fun _ => rfl)
    (fun _ _ _ h h' => h'.trans h) (fun dir hdir fs => makeDirectories_frame (h dir hdir) fs) fs

theorem run_modifies (hc : ∀ tc ∈ p.compilers, tc.2.TouchesOnlyOutput p.here.cwd)
    (sources : List Source) (ht : fs.IsTree) : Modifies (fun l => p.Owns (sources.map (·.name)) l ∨
      Orphaned p.options p.here.cwd p.targets (sources.map (·.name)) l) (p.prepare fs).1
      (p.run sources fs).1 := by
  have hbuilt := buildAll_modifies hc sources (p.prepare_tree ht)
  rw [run]
  rcases hp : p.prepare fs with ⟨fs₁, e | _⟩
  · exact .refl _ fs₁
  rw [hp] at hbuilt
  have htree : fs₁.IsTree := by
    have htree := p.prepare_tree ht
    rwa [hp] at htree
  have hswept := removeOrphans_modifies p.here.cwd p.options p.targets (sources.map (·.name))
    (hbuilt.tree htree)
  dsimp only at hbuilt hswept ⊢
  rcases hb : p.buildAll sources fs₁ with ⟨fs₂, _ | results⟩ <;> rw [hb] at hbuilt hswept
  · exact hbuilt.mono fun l hl => .inl hl
  · exact (hbuilt.mono fun l hl => .inl hl).trans (hswept.mono fun l hl => .inr hl)

/-- A location that a run changes is that of a directory that it makes, of a file that it owns, or of
an orphan. -/
theorem run_footprint (hc : ∀ tc ∈ p.compilers, tc.2.TouchesOnlyOutput p.here.cwd)
    (ht : fs.IsTree) (hl : (p.run sources fs).1.at? l ≠ fs.at? l) :
    (fs.at? l = none ∧ (p.run sources fs).1.at? l = some .directory ∧
      ∃ dir ∈ p.directories, ∃ q, dir.Above q ∧ l = q.location p.here.cwd) ∨
    (fs.at? l ≠ some .directory ∧ (p.Owns (sources.map (·.name)) l ∨
      Orphaned p.options p.here.cwd p.targets (sources.map (·.name)) l)) := by
  have hrun := run_modifies hc sources ht
  have hextends := p.prepare_extends fs
  by_cases hmade : (p.prepare fs).1.at? l = fs.at? l
  · refine .inr ⟨fun hdir => hl ?_, ?_⟩
    · rw [hrun.keeps l (hmade.trans hdir), hdir]
    · refine Classical.byContradiction fun hregion => hl ?_
      rw [hrun.frame l hregion, hmade]
  · obtain ⟨hnone, hdir⟩ := (hextends.at? l).resolve_left hmade
    refine .inl ⟨hnone, hrun.keeps l hdir, ?_⟩
    refine Classical.byContradiction fun hfree => hmade ?_
    have hne : l ≠ [] := fun hnil => by
      rw [hnil] at hnone
      cases hnone
    rw [at?_eq_get? _ hne, at?_eq_get? _ hne]
    exact prepare_frame fun dir hmem q hq he => hfree ⟨dir, hmem, q, hq, he⟩

/-- Whatever comes of a run, it makes its directories with those on the way to them, and changes
besides only the emitted sources of its sources and the files that enabled targets manage in their
directories; no directory is taken away. -/
theorem run_frame (ht : fs.IsTree) (hsafe : ∀ s ∈ sources, Manifest.isSafeName s.name = true)
    (hc : ∀ tc ∈ p.compilers, tc.2.TouchesOnlyOutput p.here.cwd)
    (hl : (p.run sources fs).1.at? l ≠ fs.at? l) :
    (fs.at? l = none ∧ (p.run sources fs).1.at? l = some .directory ∧
      ∃ dir ∈ p.directories, ∃ q, dir.Above q ∧ l = q.location p.here.cwd) ∨
    (fs.at? l ≠ some .directory ∧
      ((∃ t ∈ p.targets, ∃ s ∈ sources,
          l = (p.options.sourcePath t s.name).location p.here.cwd) ∨
        ∃ t ∈ p.targets, ∃ file, Manages t file ∧
          l = (p.options.artifactDir t).location p.here.cwd ++ [file])) := by
  refine (run_footprint hc ht hl).imp_right fun ⟨hdir, hregion⟩ => ⟨hdir, ?_⟩
  rcases hregion with ⟨n, hn, t, htarget, role, rfl⟩ | ⟨t, htarget, file, hmanages, rfl, -⟩
  · obtain ⟨s, hs, rfl⟩ := List.mem_map.1 hn
    have hplace := @Options.place_eq t s.name role p.options p.here.cwd (hsafe s hs)
    cases role with
    | artifact => exact .inr ⟨t, htarget, _, manages_artifact t s.name, hplace⟩
    | tmp => exact .inr ⟨t, htarget, _, manages_tmp t s.name, hplace⟩
    | source => exact .inl ⟨t, htarget, s, hs, rfl⟩
  · exact .inr ⟨t, htarget, file, hmanages, rfl⟩

theorem orphanFiles_tree : orphanFiles.IsTree := by decide

theorem srsCopier_touches :
    ∀ tc ∈ srsCopier.compilers, tc.2.TouchesOnlyOutput srsCopier.here.cwd := by
  intro tc htc
  rw [List.mem_singleton.1 htc]
  exact Compiler.copying_touchesOnlyOutput _

set_option maxRecDepth 10000 in
theorem srsCopier_frame :
    orphanFiles.IsTree ∧ (∀ s ∈ twoSources, Manifest.isSafeName s.name = true) ∧
    (∀ tc ∈ srsCopier.compilers, tc.2.TouchesOnlyOutput srsCopier.here.cwd) ∧
    (srsCopier.run twoSources orphanFiles).1.at?
      ["dist".toList, "singbox".toList, "old.srs".toList] = none ∧
    ∃ t ∈ srsCopier.targets, ∃ file, Manages t file ∧
      ["dist".toList, "singbox".toList, "old.srs".toList] =
        (srsCopier.options.artifactDir t).location srsCopier.here.cwd ++ [file] := by
  have hsafe : ∀ s ∈ twoSources, Manifest.isSafeName s.name = true := by decide
  have hgone : (srsCopier.run twoSources orphanFiles).1.at?
      ["dist".toList, "singbox".toList, "old.srs".toList] = none := by rfl
  have hold : orphanFiles.at? ["dist".toList, "singbox".toList, "old.srs".toList] =
      some (.file [] false) := by rfl
  refine ⟨orphanFiles_tree, hsafe, srsCopier_touches, hgone, ?_⟩
  rcases run_frame orphanFiles_tree hsafe srsCopier_touches (by rw [hgone, hold]; simp) with
    ⟨hnone, -⟩ | ⟨-, ⟨t, ht, s, hs, he⟩ | hmanaged⟩
  · rw [hold] at hnone
    cases hnone
  · obtain rfl := List.mem_singleton.1 ht
    have hplace := @Options.place_eq .singBox s.name .source srsCopier.options [] (hsafe s hs)
    have hlength := congrArg List.length (he.trans hplace)
    rw [List.length_append, List.length_singleton] at hlength
    exact absurd hlength (by decide)
  · exact hmanaged

end RuleSets.Pipeline
