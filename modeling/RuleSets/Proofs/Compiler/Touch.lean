import RuleSets.Proofs.Compiler.Atomic
import RuleSets.Proofs.FileSystem.Tree

/-!
# What an attempt touches

A compiler that touches nothing but what the path of its output leads to (`TouchesOnlyOutput`) may be
run in any file system that is a tree, whatever stands at the paths of the attempt.  The attempt then
changes at most the output and its temporary file (`compile_modifies`), and without strictness it
changes the output only by putting there what the compiler has left (`compile_keeps`,
`compile_replaces`).
-/

namespace RuleSets

theorem FileSystem.isSlashed_tmp (p : Path) : isSlashed p.tmp = false := by
  have hlast : (p.text ++ ".tmp".toList).getLast? = some 'p' := by simp
  rw [isSlashed, Path.tmp, Path.withTail, hlast]
  rfl

namespace Compiler

open FileSystem

variable {c : Compiler} {here : Surroundings} {o : Options} {source output p : Path}
  {fs fs₁ fs₂ fs₃ : FileSystem} {cwd loc l : Location} {n : Nat}

/-- Whether a compiler touches nothing but what the path of its output leads to. -/
def TouchesOnlyOutput (c : Compiler) (cwd : Location) : Prop :=
  ∀ source output fs job, c.start source output fs = .ok job → ∀ st ∈ job.states,
    ∀ l, fs.resolve cwd output ≠ .ok l → st.at? l = fs.at? l

/-- Whether a compiler makes no directory. -/
def MakesNoDirectory (c : Compiler) : Prop :=
  ∀ source output fs job, c.start source output fs = .ok job → ∀ st ∈ job.states,
    ∀ l, st.at? l = some .directory → fs.at? l = some .directory

/-! ### The course of an attempt, whatever stands at its paths -/

/-- An attempt ends at once if the temporary file cannot be deleted.  Otherwise it lets the compiler
run, and then it is abandoned, takes away what the compiler has left, or renames it. -/
theorem compile_course (c : Compiler) (here : Surroundings) (o : Options) (source output : Path)
    (fs : FileSystem) :
    (∃ e, fs.removeIfPresent here.cwd output.tmp = .error e ∧
      c.compile here o source output fs = ⟨[], .failed (.io e)⟩) ∨
    ∃ fs₁ made fs₂, fs.removeIfPresent here.cwd output.tmp = .ok fs₁ ∧
      c.produce here o.timeout source output.tmp fs₁ = made ∧ made.final fs₁ = fs₂ ∧
      ((c.compile here o source output fs).outcome = .abandoned ∧ made.outcome = .abandoned ∧
          (c.compile here o source output fs).final fs = fs₂ ∨
        (∃ f, (c.compile here o source output fs).outcome = .failed f ∧
          (c.compile here o source output fs).final fs =
            if o.strict then (fs₂.discard here.cwd output.tmp).discard here.cwd output
            else fs₂.discard here.cwd output.tmp) ∨
        ∃ n fs₃, (c.compile here o source output fs).outcome = .built n ∧ made.outcome = .built n ∧
          fs₂.rename here.cwd output.tmp output = .ok fs₃ ∧
          (c.compile here o source output fs).final fs = fs₃) := by
  obtain ⟨a, ha⟩ : ∃ a, c.compile here o source output fs = a := ⟨_, rfl⟩
  rw [ha]
  unfold compile at ha
  rcases hr : fs.removeIfPresent here.cwd output.tmp with e | fs₁
  · simp only [hr] at ha
    exact .inl ⟨e, rfl, ha.symm⟩
  obtain ⟨made, hmade⟩ : ∃ made, c.produce here o.timeout source output.tmp fs₁ = made := ⟨_, rfl⟩
  obtain ⟨fs₂, hfs₂⟩ : ∃ fs₂, made.final fs₁ = fs₂ := ⟨_, rfl⟩
  have hcleared (f : Failure) : (Attempt.mk (fs₁ :: made.states ++
      cleared here.cwd output.tmp output o.strict fs₂) (.failed f)).final fs =
      if o.strict then (fs₂.discard here.cwd output.tmp).discard here.cwd output
      else fs₂.discard here.cwd output.tmp := by
    rw [cleared]
    split
    · exact lastState_append_pair _ _ _ _
    · exact lastState_append_singleton _ _ _
  refine .inr ⟨fs₁, made, fs₂, rfl, hmade, hfs₂, ?_⟩
  simp only [hr, hmade, hfs₂] at ha
  rcases ho : made.outcome with n | f | _
  · rcases hren : fs₂.rename here.cwd output.tmp output with e | fs₃
    · simp only [ho, hren] at ha
      exact .inr (.inl ⟨.io e, by rw [← ha], ha ▸ hcleared (.io e)⟩)
    · simp only [ho, hren] at ha
      exact .inr (.inr ⟨n, fs₃, by rw [← ha], rfl, rfl, ha ▸ lastState_append_singleton _ _ _⟩)
  · simp only [ho] at ha
    exact .inr (.inl ⟨f, by rw [← ha], ha ▸ hcleared f⟩)
  · simp only [ho] at ha
    refine .inl ⟨by rw [← ha], rfl, ?_⟩
    rw [← ha, ← hfs₂]
    exact lastState_cons _ _ _

/-! ### From the start of the compiler -/

/-- Whether nothing has changed but what a path leads to, where there was nothing. -/
structure Touched (cwd : Location) (p : Path) (fs₁ fs₂ : FileSystem) : Prop where
  gone : ∀ l, fs₁.resolve cwd p = .ok l → fs₁.at? l = none
  same : ∀ l, fs₁.resolve cwd p ≠ .ok l → fs₂.at? l = fs₁.at? l

theorem TouchesOnlyOutput.touched (hc : c.TouchesOnlyOutput here.cwd) (limit : Nat)
    (source : Path) (hr : fs.removeIfPresent here.cwd output = .ok fs₁) :
    Touched here.cwd output fs₁ ((c.produce here limit source output fs₁).final fs₁) where
  gone _ hl := removeIfPresent_gone hr hl
  same l hl := by
    rcases lastState_mem (c.produce here limit source output fs₁).states fs₁ with he | hmem
    · rw [Attempt.final, he]
    · obtain ⟨job, hjob, hst⟩ := mem_states_of_produce hmem
      exact hc _ _ _ _ hjob _ hst l hl

theorem MakesNoDirectory.produce (hd : c.MakesNoDirectory) (here : Surroundings) (limit : Nat)
    (source output : Path) (fs : FileSystem) :
    KeepsDirectories ((c.produce here limit source output fs).final fs) fs := fun l hl => by
  rcases lastState_mem (c.produce here limit source output fs).states fs with he | hmem
  · rwa [Attempt.final, he] at hl
  · obtain ⟨job, hjob, hst⟩ := mem_states_of_produce hmem
    exact hd _ _ _ _ hjob _ hst l hl

namespace Touched

variable (h : Touched cwd p fs₁ fs₂)
include h

theorem keeps : KeepsDirectories fs₁ fs₂ := fun l hl => by
  by_cases hr : fs₁.resolve cwd p = .ok l
  · rw [h.gone l hr] at hl
    cases hl
  · rw [h.same l hr, hl]

/-- A path that leads somewhere afterwards has led there before. -/
theorem resolve (hr : fs₂.resolve cwd p = .ok loc) : fs₁.resolve cwd p = .ok loc := by
  rcases hr₁ : fs₁.resolve cwd p with e | l
  · have hback : KeepsDirectories fs₂ fs₁ := fun l hl => by
      rwa [h.same l (by rw [hr₁]; simp)] at hl
    rw [resolve_mono hback hr] at hr₁
    cases hr₁
  · rw [← location_of_resolve hr, location_of_resolve hr₁]

theorem modifies : Modifies (· = p.location cwd) fs₁ fs₂ where
  frame l hl := h.same l fun hr => hl (location_of_resolve hr).symm
  keeps := h.keeps
  tree ht := by
    rcases hr : fs₁.resolve cwd p with e | loc
    · exact ht.congr fun l => h.same l (by rw [hr]; simp)
    · obtain ⟨dir, name, rfl, hdir, hname⟩ := resolve_new ht hr (h.gone loc hr)
      refine (ht.put (by rw [h.gone _ hr]; simp) hdir hname (fs₂.at? (dir ++ [name]))).congr
        fun l => ?_
      by_cases hl : l = dir ++ [name]
      · rw [hl, at?_put_self (by simp)]
      · rw [at?_put_of_ne hl]
        refine h.same l fun hl' => hl ?_
        rw [hr] at hl'
        exact (Except.ok.inj hl').symm

/-- Renaming what was put at the path puts it at the other path and does nothing else. -/
theorem renamed {q : Path} (ht : fs₁.IsTree) (hslash : isSlashed p = false)
    (hr : fs₂.rename cwd p q = .ok fs₃) :
    fs₁.resolve cwd p = .ok (p.location cwd) ∧
      fs₃.at? (q.location cwd) = fs₂.at? (p.location cwd) ∧
      (p.location cwd ≠ q.location cwd → fs₃.at? (p.location cwd) = none) ∧
      Modifies (fun l => l = p.location cwd ∨ l = q.location cwd) fs₁ fs₃ := by
  have hres := h.resolve (resolve_of_entryOf hslash (entryOf_of_rename hr))
  have hgone := h.gone _ hres
  have hsame (l : Location) (hl : l ≠ p.location cwd) : fs₂.at? l = fs₁.at? l :=
    h.same l fun he => hl (Except.ok.inj (he.symm.trans hres))
  have hne : p.location cwd ≠ [] := fun hnil => by
    rw [hnil] at hgone
    cases hgone
  -- Nothing was at the path before, so there is nothing below it now.
  have hleaf (rest : Location) (hrest : rest ≠ []) : fs₂.at? (p.location cwd ++ rest) = none := by
    rw [hsame _ fun he => hrest (List.self_eq_append_right.1 he.symm)]
    exact ht.below (by rw [hgone]; simp) rest hrest
  refine ⟨hres, ?_⟩
  obtain ⟨e, he, ⟨hpq, rfl⟩ | ⟨hpq, rfl, hdirectory, dir, name, hq, hdir, hname⟩⟩ :=
    rename_of_leaf hr hleaf
  · exact ⟨by rw [hpq], fun hpq' => absurd hpq hpq', h.modifies.mono fun l hl => .inl hl⟩
  have hcleared (l : Location) : (fs₂.put (p.location cwd) none).at? l = fs₁.at? l := by
    by_cases hl : l = p.location cwd
    · rw [hl, at?_put_self hne, hgone]
    · rw [at?_put_of_ne hl, hsame l hl]
  have hq' : q.location cwd ≠ [] := by simp [hq]
  have hat (l : Location) : ((fs₂.put (p.location cwd) none).put (q.location cwd) (some e)).at? l =
      (fs₁.put (q.location cwd) (some e)).at? l := by
    by_cases hl : l = q.location cwd
    · rw [hl, at?_put_self hq', at?_put_self hq']
    · rw [at?_put_of_ne hl, at?_put_of_ne hl, hcleared]
  refine ⟨by rw [at?_put_self hq', he], fun _ => ?_, ?_⟩
  · rw [hat, at?_put_of_ne hpq, hgone]
  by_cases hold : fs₁.at? (q.location cwd) = some .directory
  · -- A directory has taken the place of an empty one.
    obtain rfl := hdirectory (by rw [hsame _ (Ne.symm hpq), hold])
    refine (Modifies.refl _ fs₁).congr fun l => ?_
    rw [hat]
    by_cases hl : l = q.location cwd
    · rw [hl, at?_put_self hq', hold]
    · exact at?_put_of_ne hl
  · rw [hcleared] at hdir
    have htree : fs₁.IsTree → (fs₁.put (q.location cwd) (some e)).IsTree := fun ht => by
      rw [hq] at hold ⊢
      exact ht.put hold hdir hname _
    exact ((Modifies.put hold htree).congr hat).mono fun l hl => .inr hl

end Touched

/-! ### Whole attempts -/

section
variable (hc : c.TouchesOnlyOutput here.cwd) (ht : fs.IsTree)
include hc

/-- Until the output is renamed over or deleted only the temporary file changes. -/
theorem produce_modifies {limit : Nat} (hr : fs.removeIfPresent here.cwd output.tmp = .ok fs₁) :
    Modifies (· = output.tmp.location here.cwd) fs
      ((c.produce here limit source output.tmp fs₁).final fs₁) :=
  (removeIfPresent_modifies hr).trans (hc.touched limit source hr).modifies

/-- Without strictness an attempt changes the output only by replacing it. -/
theorem compile_keeps (hs : o.strict = false)
    (hnot : ∀ n, (c.compile here o source output fs).outcome ≠ .built n) :
    Modifies (· = output.tmp.location here.cwd) fs
      ((c.compile here o source output fs).final fs) := by
  rcases compile_course c here o source output fs with
    ⟨e, -, ha⟩ | ⟨fs₁, made, fs₂, hr, hmade, hfs₂, ⟨-, -, hf⟩ | ⟨f, -, hf⟩ | ⟨n, fs₃, ho, -⟩⟩
  · rw [ha]
    exact .refl _ fs
  · rw [hf, ← hfs₂, ← hmade]
    exact produce_modifies hc hr
  · rw [hf, if_neg (by simp [hs]), ← hfs₂, ← hmade]
    exact (produce_modifies hc hr).trans (discard_modifies ..)
  · exact absurd ho (hnot n)

include ht

/-- An attempt changes nothing but the output and its temporary file. -/
theorem compile_modifies :
    Modifies (fun l => l = output.tmp.location here.cwd ∨ l = output.location here.cwd) fs
      ((c.compile here o source output fs).final fs) := by
  have htmp (l : Location) (hl : l = output.tmp.location here.cwd) :
      l = output.tmp.location here.cwd ∨ l = output.location here.cwd := .inl hl
  rcases compile_course c here o source output fs with
    ⟨e, -, ha⟩ | ⟨fs₁, made, fs₂, hr, hmade, hfs₂, ⟨-, -, hf⟩ | ⟨f, -, hf⟩ | ⟨n, fs₃, -, -, hren, hf⟩⟩
  · rw [ha]
    exact .refl _ fs
  · rw [hf, ← hfs₂, ← hmade]
    exact (produce_modifies hc hr).mono htmp
  · have hcleared : Modifies (· = output.tmp.location here.cwd) fs
        (fs₂.discard here.cwd output.tmp) := by
      rw [← hfs₂, ← hmade]
      exact (produce_modifies hc hr).trans (discard_modifies ..)
    rw [hf]
    split
    · exact (hcleared.mono htmp).trans ((discard_modifies ..).mono fun l hl => .inr hl)
    · exact hcleared.mono htmp
  · have hfirst := removeIfPresent_modifies hr
    have htouched := hc.touched o.timeout source hr
    rw [hmade, hfs₂] at htouched
    obtain ⟨-, -, -, hren⟩ := htouched.renamed (hfirst.tree ht) (isSlashed_tmp output) hren
    rw [hf]
    exact (hfirst.mono htmp).trans hren

variable (hd : c.MakesNoDirectory)
include hd

/-- What takes the place of the output is what the compiler has left, with something in it. -/
theorem compile_replaces (h : (c.compile here o source output fs).outcome = .built n) :
    ∃ fs₁ contents executable, fs.removeIfPresent here.cwd output.tmp = .ok fs₁ ∧
      c.Leaves here.cwd o.timeout source output.tmp fs₁ contents executable ∧
      contents.length = n ∧ 0 < n ∧
      ((c.compile here o source output fs).final fs).at? (output.location here.cwd) =
        some (.file contents executable) := by
  rcases compile_course c here o source output fs with
    ⟨e, -, ha⟩ | ⟨fs₁, made, fs₂, hr, hmade, hfs₂, ⟨ho, -⟩ | ⟨f, ho, -⟩ | ⟨m, fs₃, ho, hbuilt, hren, hf⟩⟩
  · rw [ha] at h
    cases h
  · rw [ho] at h
    cases h
  · rw [ho] at h
    cases h
  obtain rfl : m = n := by
    rw [ho] at h
    cases h
    rfl
  have htree := (removeIfPresent_modifies hr).tree ht
  have htouched := hc.touched o.timeout source hr
  have hfiles := hd.produce here o.timeout source output.tmp fs₁ (output.tmp.location here.cwd)
  rw [← hmade] at hbuilt
  obtain ⟨job, time, hjob, hend, htime, hstates, hsize, hn⟩ := produce_built hbuilt
  rw [hmade, hfs₂] at htouched hfiles
  obtain ⟨hres, hput, -, -⟩ := htouched.renamed htree (isSlashed_tmp output) hren
  have hlast : lastState job.states fs₁ = fs₂ := by
    rw [← hstates, hmade]
    exact hfs₂
  rw [hlast] at hsize
  obtain ⟨contents, executable, hat, hlength⟩ := size_eq_ok hsize fun hdir => by
    rw [htouched.gone _ hres] at hfiles
    cases hfiles hdir
  refine ⟨fs₁, contents, executable, hr, ⟨job, time, hjob, hend, htime, hlast ▸ hat⟩, hlength, hn, ?_⟩
  rw [hf, hput, hat]

/-- An attempt that comes to its end leaves no temporary file but one that was there before. -/
theorem compile_tmp (hne : output.tmp.location here.cwd ≠ output.location here.cwd)
    (hend : (c.compile here o source output fs).outcome ≠ .abandoned)
    (hleft : ((c.compile here o source output fs).final fs).at? (output.tmp.location here.cwd) ≠ none) :
    fs.at? (output.tmp.location here.cwd) ≠ none := by
  rcases compile_course c here o source output fs with
    ⟨e, -, ha⟩ | ⟨fs₁, made, fs₂, hr, hmade, hfs₂, ⟨ho, -⟩ | ⟨f, -, hf⟩ | ⟨n, fs₃, -, -, hren, hf⟩⟩
  · rwa [ha] at hleft
  · exact absurd ho hend
  · have htouched := hc.touched o.timeout source hr
    have hfiles := hd.produce here o.timeout source output.tmp fs₁ (output.tmp.location here.cwd)
    rw [hmade, hfs₂] at htouched hfiles
    have hcleared : (fs₂.discard here.cwd output.tmp).at? (output.tmp.location here.cwd) ≠ none := by
      rw [hf] at hleft
      split at hleft
      · rwa [discard_at? hleft] at hleft
      · exact hleft
    -- The path of the temporary file leads nowhere, for otherwise the file would have been discarded.
    have hlost (loc : Location) : fs₁.resolve here.cwd output.tmp ≠ .ok loc := fun hres => by
      obtain rfl := location_of_resolve hres
      refine hcleared (discard_gone (resolve_mono htouched.keeps hres) fun hdir => ?_)
      rw [htouched.gone _ hres] at hfiles
      cases hfiles hdir
    rw [discard_at? hcleared, htouched.same _ (hlost _)] at hcleared
    rw [removeIfPresent_discard hr] at hcleared
    rwa [discard_at? hcleared] at hcleared
  · have htree := (removeIfPresent_modifies hr).tree ht
    have htouched := hc.touched o.timeout source hr
    rw [hmade, hfs₂] at htouched
    obtain ⟨-, -, hgone, -⟩ := htouched.renamed htree (isSlashed_tmp output) hren
    rw [hf, hgone hne] at hleft
    exact absurd rfl hleft

end

/-! ### A compiler that touches only its output -/

theorem copying_states {job : Job} (h : (copying cwd).start source output fs = .ok job)
    {st : FileSystem} (hst : st ∈ job.states) : fs.resolve cwd output = .ok (output.location cwd) ∧
      fs.at? (output.location cwd) ≠ some .directory ∧
      ∃ contents executable, st = fs.put (output.location cwd) (some (.file contents executable)) := by
  simp only [copying, bind, Except.bind, pure, Except.pure] at h
  rcases hread : fs.read cwd source with e | contents
  · simp [hread] at h
  rcases hw₁ : fs.write cwd output [] with e | fs₁
  · simp [hread, hw₁] at h
  rcases hw₂ : fs₁.write cwd output contents with e | fs₂
  · simp [hread, hw₁, hw₂] at h
  simp only [hread, hw₁, hw₂, Except.ok.injEq] at h
  obtain ⟨hres, hfile, x, hfs₁⟩ := write_eq_ok hw₁
  obtain ⟨-, -, x', hfs₂⟩ := write_eq_ok hw₂
  rw [hfs₁, put_put] at hfs₂
  have hstates : job.states = [fs₁, fs₂] := by
    rw [← h]
    rfl
  rw [hstates, List.mem_cons, List.mem_singleton] at hst
  refine ⟨hres, hfile, ?_⟩
  rcases hst with rfl | rfl
  · exact ⟨[], x, hfs₁⟩
  · exact ⟨contents, x', hfs₂⟩

theorem copying_touchesOnlyOutput (cwd : Location) : (copying cwd).TouchesOnlyOutput cwd := by
  intro source output fs job hjob st hst l hl
  obtain ⟨hres, -, contents, executable, rfl⟩ := copying_states hjob hst
  exact at?_put_of_ne fun he => hl (by rw [hres, he])

theorem copying_makesNoDirectory (cwd : Location) : (copying cwd).MakesNoDirectory := by
  intro source output fs job hjob st hst l hl
  obtain ⟨-, hfile, contents, executable, rfl⟩ := copying_states hjob hst
  refine ((SameDirectories.put hfile ?_) l).2 hl
  simp

end Compiler
end RuleSets
