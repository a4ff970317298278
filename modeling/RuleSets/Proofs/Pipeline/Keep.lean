import RuleSets.Proofs.Pipeline.Abandoned
import RuleSets.Proofs.Pipeline.Frame
import RuleSets.Proofs.Pipeline.Report

/-!
# Runs without strictness

Where a run is not strict, the compiled file of a present source is replaced by what a compiler has
left of the source, with something in it, and else stays as it was (`lax_run_keeps`).  Nothing is
asked of the compilers but that they touch only their outputs and make no directories: what they
leave need not be a function of the source.
-/

namespace RuleSets.Pipeline

open FileSystem

variable {p : Pipeline} {sources : List Source} {fs fs' fs'' g : FileSystem} {t : Target}
  {c : Compiler} {name : Text} {names : List Text} {b : Bucket} {s : Source} {r : BuildResult}

/-! ### One target -/

/-- Whether an entry is a file of `n` bytes that a compiler has left of the emitted rules of a bucket,
when it was started where nothing but files of the run had changed. -/
def Compiled (p : Pipeline) (names : List Text) (fs : FileSystem) (t : Target) (c : Compiler)
    (name : Text) (b : Bucket) (n : Nat) (e : Option Entry) : Prop :=
  ∃ st contents executable, Modifies (p.Owns names) fs st ∧
    st.read p.here.cwd (p.options.sourcePath t name) =
      .ok (Utf8.encode (t.render b p.options.version)) ∧
    c.Leaves p.here.cwd p.options.compile.timeout (p.options.sourcePath t name)
      (p.options.artifactPath t name).tmp st contents executable ∧
    contents.length = n ∧ 0 < n ∧ e = some (.file contents executable)

section
variable (hname : Manifest.isSafeName name = true) (hc : c.TouchesOnlyOutput p.here.cwd)
  (ht : fs.IsTree)
include hname hc

theorem buildTarget_keeps (hs : p.options.compile.strict = false)
    (hnot : ∀ n, (p.buildTarget t c name b fs).2 ≠ some (.built n)) :
    (p.buildTarget t c name b fs).1.at? (p.options.place p.here.cwd t name .artifact) =
      fs.at? (p.options.place p.here.cwd t name .artifact) := by
  have hsource := @Options.place_ne t name .artifact .source p.options p.here.cwd hname (by decide)
  have htmp := @Options.place_ne t name .artifact .tmp p.options p.here.cwd hname (by decide)
  rcases p.buildTarget_cases t c name b fs with
    ⟨status, -, hb⟩ | ⟨fs₁, attempt, -, hw, rfl, hstatus, hlast⟩
  · rw [hb, discard, if_neg (by simp [hs])]
  · rw [hstatus] at hnot
    have hkeeps := Compiler.compile_keeps hc hs fun n ho => hnot n (by rw [ho]; rfl)
    rw [hlast.frame _ hsource, hkeeps.frame _ htmp, (write_modifies hw).frame _ hsource]

include ht

theorem buildTarget_compiled (hd : c.MakesNoDirectory) (htarget : t ∈ p.targets)
    (hmem : name ∈ names) {n : Nat}
    (hbuilt : (p.buildTarget t c name b fs).2 = some (.built n)) :
    p.Compiled names fs t c name b n
      ((p.buildTarget t c name b fs).1.at? (p.options.place p.here.cwd t name .artifact)) := by
  rcases p.buildTarget_cases t c name b fs with
    ⟨status, hstatus, hb⟩ | ⟨fs₁, attempt, -, hw, rfl, hstatus, hlast⟩
  · rw [hb] at hbuilt
    exact absurd (Option.some.inj hbuilt) (hstatus n)
  rw [hstatus] at hbuilt
  have ho : (c.compile p.here p.options.compile (p.options.sourcePath t name)
      (p.options.artifactPath t name) fs₁).outcome = .built n := by
    unfold statusOf at hbuilt
    split at hbuilt
    · rename_i ho
      cases hbuilt
      exact ho
    · cases hbuilt
    · cases hbuilt
  obtain ⟨fs₂, contents, executable, hr, hleaves, hlength, hn, hat⟩ :=
    Compiler.compile_replaces hc ((write_modifies hw).tree ht) hd ho
  have howns (l : Location) (role : Role) (hl : l = p.options.place p.here.cwd t name role) :
      p.Owns names l := ⟨name, hmem, t, htarget, role, hl⟩
  refine ⟨fs₂, contents, executable, ?_, ?_, hleaves, hlength, hn, ?_⟩
  · exact ((write_modifies hw).mono fun l hl => howns l .source hl).trans
      ((removeIfPresent_modifies hr).mono fun l hl => howns l .tmp hl)
  · -- The compiler starts after the temporary file is gone, and finds the source as it was emitted.
    have hcleared := removeIfPresent_modifies hr
    obtain ⟨hres, hfile, x, rfl⟩ := write_eq_ok hw
    have hsource : p.options.place p.here.cwd t name .source ≠ [] := fun hnil =>
      hfile (by rw [show (p.options.sourcePath t name).location p.here.cwd = [] from hnil]; rfl)
    have htmp := @Options.place_ne t name .source .tmp p.options p.here.cwd hname (by decide)
    exact read_of_resolve (resolve_mono hcleared.keeps (resolve_mono (write_modifies hw).keeps hres))
      ((hcleared.frame _ htmp).trans (at?_put_self hsource))
  · have hsource := @Options.place_ne t name .artifact .source p.options p.here.cwd hname (by decide)
    rw [hlast.frame _ hsource]
    exact hat

end

/-! ### Temporary files -/

/-- Whether of the temporary files that a run may make none is new. -/
def AddsNoTmp (p : Pipeline) (fs fs' : FileSystem) : Prop :=
  ∀ t n, Manifest.isSafeName n = true → fs'.at? (p.options.place p.here.cwd t n .tmp) ≠ none →
    fs.at? (p.options.place p.here.cwd t n .tmp) ≠ none

theorem AddsNoTmp.trans (h : p.AddsNoTmp fs fs') (h' : p.AddsNoTmp fs' fs'') :
    p.AddsNoTmp fs fs'' := fun t n hn hleft => h t n hn (h' t n hn hleft)

theorem discard_addsNoTmp (p : Pipeline) (artifact : Path) (fs : FileSystem) :
    p.AddsNoTmp fs (p.discard artifact fs) := by
  intro t n _ hleft
  rw [discard] at hleft
  split at hleft
  · rw [discard_at? hleft] at hleft
    rwa [discard_at? hleft] at hleft
  · exact hleft

theorem buildTarget_addsNoTmp (hname : Manifest.isSafeName name = true)
    (hc : c.TouchesOnlyOutput p.here.cwd) (hd : c.MakesNoDirectory) (ht : fs.IsTree)
    (hend : (p.buildTarget t c name b fs).2 ≠ none) :
    p.AddsNoTmp fs (p.buildTarget t c name b fs).1 := by
  intro u n hn hleft
  by_cases hown : ∃ role, p.options.place p.here.cwd u n .tmp = p.options.place p.here.cwd t name role
  · obtain ⟨role, he⟩ := hown
    obtain ⟨rfl, rfl, -⟩ := Options.place_injective hn hname he
    rcases p.buildTarget_cases u c n b fs with
      ⟨status, -, hb⟩ | ⟨fs₁, attempt, -, hw, rfl, hstatus, hlast⟩
    · rw [hb] at hleft
      exact p.discard_addsNoTmp _ fs u n hn hleft
    · have hsource := @Options.place_ne u n .tmp .source p.options p.here.cwd hn (by decide)
      have hartifact := @Options.place_ne u n .tmp .artifact p.options p.here.cwd hn (by decide)
      rw [hlast.frame _ hsource] at hleft
      rw [hstatus] at hend
      have hbefore := Compiler.compile_tmp hc ((write_modifies hw).tree ht) hd hartifact
        (fun ho => hend (by rw [ho]; rfl)) hleft
      have hwritten := (write_modifies hw).frame _ hsource
      exact hwritten ▸ hbefore
  · rwa [(buildTarget_modifies t name b hc ht).frame _ hown] at hleft

/-! ### All targets of a source -/

/-- Whether what is told of a target of a source agrees with what has become of its compiled file:
the file is one that the compiler has left, or the same as before. -/
def Tells (p : Pipeline) (names : List Text) (fs : FileSystem) (s : Source)
    (answer : Except Failure Text) (tc : Target × Compiler) (status : Option TargetStatus)
    (old new : Option Entry) : Prop :=
  (∀ n, status = some (.built n) → ∃ text, answer = .ok text ∧
    p.Compiled names fs tc.1 tc.2 s.name (bucketOf s.hint text) n new) ∧
  ((∀ n, status ≠ some (.built n)) → new = old)

theorem Tells.of_modifies {answer : Except Failure Text} {tc : Target × Compiler}
    {status : Option TargetStatus} {old new : Option Entry}
    (h : p.Tells names fs' s answer tc status old new) (hfs : Modifies (p.Owns names) fs fs') :
    p.Tells names fs s answer tc status old new := by
  refine ⟨fun n hn => ?_, h.2⟩
  obtain ⟨text, htext, st, contents, executable, hst, hrest⟩ := h.1 n hn
  exact ⟨text, htext, st, contents, executable, hfs.trans hst, hrest⟩

section
variable (hs : p.options.compile.strict = false) (hname : Manifest.isSafeName s.name = true)
  (hmem : s.name ∈ names) (hc : ∀ tc ∈ p.compilers, tc.2.TouchesOnlyOutput p.here.cwd)
  (hd : ∀ tc ∈ p.compilers, tc.2.MakesNoDirectory)
include hs hname hmem hc hd

theorem buildTarget_tells {text : Text} {tc : Target × Compiler} (htc : tc ∈ p.compilers)
    (ht : fs.IsTree) :
    p.Tells names fs s (.ok text) tc (p.buildTarget tc.1 tc.2 s.name (bucketOf s.hint text) fs).2
      (fs.at? (p.options.place p.here.cwd tc.1 s.name .artifact))
      ((p.buildTarget tc.1 tc.2 s.name (bucketOf s.hint text) fs).1.at?
        (p.options.place p.here.cwd tc.1 s.name .artifact)) :=
  ⟨fun _ hbuilt => ⟨text, rfl, buildTarget_compiled hname (hc tc htc) ht (hd tc htc)
      (List.mem_map_of_mem htc) hmem hbuilt⟩,
    fun hnot => buildTarget_keeps hname (hc tc htc) hs hnot⟩

theorem buildTargets_tells {text : Text} {cs : List (Target × Compiler)}
    (hsub : ∀ tc ∈ cs, tc ∈ p.compilers) (hnodup : (cs.map (·.1)).Nodup) (ht : fs.IsTree)
    {statuses : List (Target × TargetStatus)}
    (h : (p.buildTargets s.name (bucketOf s.hint text) cs fs).2 = some statuses) :
    p.AddsNoTmp fs (p.buildTargets s.name (bucketOf s.hint text) cs fs).1 ∧
    ∀ tc ∈ cs, p.Tells names fs s (.ok text) tc ((statuses.find? (·.1 == tc.1)).map (·.2))
      (fs.at? (p.options.place p.here.cwd tc.1 s.name .artifact))
      ((p.buildTargets s.name (bucketOf s.hint text) cs fs).1.at?
        (p.options.place p.here.cwd tc.1 s.name .artifact)) := by
  obtain ⟨b, hb⟩ : ∃ b, bucketOf s.hint text = b := ⟨_, rfl⟩
  induction cs generalizing fs statuses with
  | nil => exact ⟨fun _ _ _ hleft => hleft, fun tc htc => absurd htc List.not_mem_nil⟩
  | cons tc cs ih =>
    obtain ⟨t, c⟩ := tc
    rw [List.map_cons, List.nodup_cons] at hnodup
    have hfirst := hsub (t, c) (List.mem_cons_self ..)
    have hothers : ∀ tc ∈ cs, tc ∈ p.compilers := fun tc htc => hsub tc (List.mem_cons_of_mem _ htc)
    have htells := @buildTarget_tells p fs names s hs hname hmem hc hd text (t, c) hfirst ht
    have htmp := @buildTarget_addsNoTmp p fs t c s.name b hname (hc _ hfirst) (hd _ hfirst) ht
    have hone := buildTarget_modifies t s.name b (hc _ hfirst) ht
    have hrest := buildTargets_modifies s.name b (fun tc htc => hc tc (hothers tc htc))
      (hone.tree ht)
    have hih := @ih (p.buildTarget t c s.name b fs).1
    rw [hb] at h hih htells ⊢
    rw [buildTargets] at h ⊢
    rcases hbuild : p.buildTarget t c s.name b fs with ⟨fs₁, _ | status⟩
    · simp only [hbuild] at h
      cases h
    simp only [hbuild] at h htells htmp hone hrest hih ⊢
    obtain ⟨statuses', hstatuses, rfl⟩ := Option.map_eq_some_iff.1 h
    obtain ⟨htmps, htold⟩ := hih hothers hnodup.2 (hone.tree ht) hstatuses
    refine ⟨(htmp (by simp)).trans htmps, fun tc htc => ?_⟩
    rcases List.mem_cons.1 htc with rfl | htc
    · -- The other targets leave the compiled file of this one alone.
      have hfree : ¬ p.OwnsFor (cs.map (·.1)) s.name (p.options.place p.here.cwd t s.name .artifact) := by
        rintro ⟨u, hu, role, he⟩
        exact hnodup.1 ((Options.place_injective hname hname he).1 ▸ hu)
      rw [List.find?_cons_of_pos (by exact beq_self_eq_true t), hrest.frame _ hfree]
      exact htells
    · have hne : t ≠ tc.1 := fun he => hnodup.1 (List.mem_map.2 ⟨tc, htc, he.symm⟩)
      have hfree : ¬ ∃ role, p.options.place p.here.cwd tc.1 s.name .artifact =
          p.options.place p.here.cwd t s.name role := by
        rintro ⟨role, he⟩
        exact hne (Options.place_injective hname hname he).1.symm
      rw [List.find?_cons_of_neg (by simpa using hne), ← hone.frame _ hfree]
      exact (htold tc htc).of_modifies (hone.mono fun l hl =>
        ⟨s.name, hmem, t, List.mem_map_of_mem hfirst, hl⟩)

/-! ### Sources -/

theorem build_tells (hnodup : p.targets.Nodup) (ht : fs.IsTree) (h : (p.build s fs).2 = some r) :
    r.name = s.name ∧ p.AddsNoTmp fs (p.build s fs).1 ∧
    ∀ tc ∈ p.compilers, p.Tells names fs s (p.fetch fs s.url) tc (r.target? tc.1)
      (fs.at? (p.options.place p.here.cwd tc.1 s.name .artifact))
      ((p.build s fs).1.at? (p.options.place p.here.cwd tc.1 s.name .artifact)) := by
  have hclear : p.clear s.name fs = fs := by
    unfold clear
    induction p.targets with
    | nil => rfl
    | cons t ts ih =>
      rw [List.foldl_cons, discard, if_neg (by simp [hs]), ih]
  have hkept (answer : Except Failure Text) (tc : Target × Compiler) (e : Option Entry) :
      p.Tells names fs s answer tc none e e := ⟨fun n hn => (by cases hn), fun _ => rfl⟩
  rw [build] at h ⊢
  cases hf : p.fetch fs s.url with
  | error f =>
    simp only [hf, hclear, Option.some.injEq] at h ⊢
    subst h
    exact ⟨rfl, fun _ _ _ hleft => hleft, fun tc _ => hkept _ tc _⟩
  | ok text =>
    simp only [hf] at h ⊢
    rw [show extractDocument (Format.ofDocument s.hint (Document.parse text) text)
      (Document.parse text) text = bucketOf s.hint text from rfl] at h ⊢
    split
    · rename_i hempty
      rw [if_pos hempty] at h
      simp only [hclear, Option.some.injEq] at h ⊢
      subst h
      exact ⟨rfl, fun _ _ _ hleft => hleft, fun tc _ => hkept _ tc _⟩
    · rename_i hne
      rw [if_neg hne] at h
      obtain ⟨statuses, hstatuses, rfl⟩ := Option.map_eq_some_iff.1 h
      exact ⟨rfl, buildTargets_tells hs hname hmem hc hd (fun _ htc => htc) hnodup ht hstatuses⟩

end

section
variable (hs : p.options.compile.strict = false)
  (hc : ∀ tc ∈ p.compilers, tc.2.TouchesOnlyOutput p.here.cwd)
  (hd : ∀ tc ∈ p.compilers, tc.2.MakesNoDirectory) (hnodup : p.targets.Nodup)
include hs hc hd hnodup

theorem buildAll_tells (hnames : (sources.map (·.name)).Nodup)
    (hsub : ∀ s ∈ sources, s.name ∈ names)
    (hsafe : ∀ s ∈ sources, Manifest.isSafeName s.name = true) (ht : fs.IsTree)
    {results : List BuildResult} (h : (p.buildAll sources fs).2 = some results) :
    results.map (·.name) = sources.map (·.name) ∧ p.AddsNoTmp fs (p.buildAll sources fs).1 ∧
    ∀ x ∈ (p.answers sources fs).zip results, ∀ tc ∈ p.compilers,
      p.Tells names fs x.1.1 x.1.2 tc (x.2.target? tc.1)
        (fs.at? (p.options.place p.here.cwd tc.1 x.1.1.name .artifact))
        ((p.buildAll sources fs).1.at? (p.options.place p.here.cwd tc.1 x.1.1.name .artifact)) := by
  induction sources generalizing fs results with
  | nil =>
    cases h
    exact ⟨rfl, fun _ _ _ hleft => hleft, fun x hx => absurd hx List.not_mem_nil⟩
  | cons s rest ih =>
    rw [List.map_cons, List.nodup_cons] at hnames
    have hname := hsafe s (List.mem_cons_self ..)
    have hrest : ∀ s ∈ rest, Manifest.isSafeName s.name = true := fun s' hs' =>
      hsafe s' (List.mem_cons_of_mem _ hs')
    have htells := @build_tells p fs names s
    have hmem := hsub s (List.mem_cons_self ..)
    have hone := build_modifies hc s ht
    have hothers := buildAll_modifies hc rest (hone.tree ht)
    have hih := @ih (p.build s fs).1
    rw [answers]
    rw [buildAll] at h ⊢
    rcases hb : p.build s fs with ⟨fs₁, _ | r⟩
    · simp only [hb] at h
      cases h
    simp only [hb] at h htells hone hothers hih ⊢
    obtain ⟨results', hresults, rfl⟩ := Option.map_eq_some_iff.1 h
    obtain ⟨hrname, htmp, hs₁⟩ := htells hs hname hmem hc hd hnodup ht rfl
    obtain ⟨hrnames, htmps, hs₂⟩ := hih hnames.2 (fun s' hs' => hsub s' (List.mem_cons_of_mem _ hs'))
      hrest (hone.tree ht) hresults
    refine ⟨by rw [List.map_cons, List.map_cons, hrname, hrnames], htmp.trans htmps, fun x hx tc htc => ?_⟩
    rw [List.zip_cons_cons] at hx
    rcases List.mem_cons.1 hx with rfl | hx
    · -- The other sources leave the compiled files of this one alone.
      have hfree : ¬ p.Owns (rest.map (·.name)) (p.options.place p.here.cwd tc.1 s.name .artifact) := by
        rintro ⟨n, hn, u, -, role, he⟩
        obtain ⟨s', hs', rfl⟩ := List.mem_map.1 hn
        exact hnames.1 ((Options.place_injective hname (hrest s' hs') he).2.1 ▸ hn)
      rw [hothers.frame _ hfree]
      exact hs₁ tc htc
    · have hin : x.1.1 ∈ rest := mem_of_mem_answers (List.of_mem_zip hx).1
      have hfree : ¬ p.OwnsFor p.targets s.name
          (p.options.place p.here.cwd tc.1 x.1.1.name .artifact) := by
        rintro ⟨u, -, role, he⟩
        have hsame := (Options.place_injective (hrest _ hin) hname he).2.1
        exact hnames.1 (List.mem_map.2 ⟨_, hin, hsame⟩)
      rw [← hone.frame _ hfree]
      exact (hs₂ x hx tc htc).of_modifies (hone.mono fun l hl => ⟨s.name, hmem, hl⟩)

end

/-! ### Whole runs -/

/-- What runs on real file systems and with real compilers are taken to satisfy, where a compiler need
not be a function of its source. -/
structure Contained (p : Pipeline) (sources : List Source) (fs : FileSystem) : Prop where
  tree : fs.IsTree
  /-- Compilers touch nothing but their outputs and make no directories there. -/
  touches : ∀ tc ∈ p.compilers, tc.2.TouchesOnlyOutput p.here.cwd
  files : ∀ tc ∈ p.compilers, tc.2.MakesNoDirectory
  targets : p.targets.Nodup
  names : (sources.map (·.name)).Nodup
  safe : ∀ s ∈ sources, Manifest.isSafeName s.name = true
  /-- The directories can be made, and none of them is in the place of a compiled file. -/
  prepared : (p.prepare fs).2 = .ok ()
  artifact : ∀ t ∈ p.targets, ∀ s ∈ sources,
    (p.prepare fs).1.at? (p.options.place p.here.cwd t s.name .artifact) ≠ some .directory
  directory : ∀ t ∈ p.targets, (p.prepare fs).1.lookup p.here.cwd (p.options.artifactDir t) =
    .ok ((p.options.artifactDir t).location p.here.cwd, .directory)
  /-- The paths of the files in a directory of compiled files lead to them. -/
  reach : ∀ t ∈ p.targets, ∀ file,
    (p.prepare fs).1.get? ((p.options.artifactDir t).location p.here.cwd ++ [file]) ≠ none →
    (p.prepare fs).1.resolve p.here.cwd ((p.options.artifactDir t).join ⟨file⟩) =
      .ok ((p.options.artifactDir t).location p.here.cwd ++ [file])

namespace Contained

variable {summary : Summary} (h : p.Contained sources fs)
include h

theorem swept {fs₂ : FileSystem}
    (hbuilt : Modifies (p.Owns (sources.map (·.name))) (p.prepare fs).1 fs₂)
    (htmp : p.AddsNoTmp (p.prepare fs).1 fs₂) :
    SweptAt (Orphaned p.options p.here.cwd p.targets (sources.map (·.name))) fs₂
      (removeOrphans p.here.cwd p.options p.targets (sources.map (·.name)) fs₂).1 := by
  refine removeOrphans_spec (fun t ht => ?_) fun t ht file horphan hne => ?_
  · exact lookup_directory_mono hbuilt.keeps (h.directory t ht)
  refine resolve_mono hbuilt.keeps (h.reach t ht file ?_)
  rw [← at?_eq_get? _ (by simp)] at hne ⊢
  -- An orphan that is there after the sources were built was there before.
  by_cases hl : p.Owns (sources.map (·.name))
      ((p.options.artifactDir t).location p.here.cwd ++ [file])
  · obtain ⟨n, hn, u, hu, role, he⟩ := hl
    obtain ⟨s, hs, rfl⟩ := List.mem_map.1 hn
    rw [he] at horphan hne ⊢
    cases role with
    | artifact => exact absurd horphan (not_orphaned_artifact hu hn (h.safe s hs))
    | tmp => exact htmp u s.name (h.safe s hs) hne
    | source => exact absurd horphan (not_orphaned_source (h.safe s hs))
  · rwa [hbuilt.frame _ hl] at hne

theorem finished (hs : p.options.compile.strict = false)
    (hrun : p.run sources fs = (g, .finished summary)) :
    summary.results.map (·.name) = sources.map (·.name) ∧
    (∀ x ∈ (p.answers sources (p.prepare fs).1).zip summary.results, ∀ tc ∈ p.compilers,
      p.Tells (sources.map (·.name)) (p.prepare fs).1 x.1.1 x.1.2 tc (x.2.target? tc.1)
        (fs.at? (p.options.place p.here.cwd tc.1 x.1.1.name .artifact))
        (g.at? (p.options.place p.here.cwd tc.1 x.1.1.name .artifact))) ∧
    ∀ l, Orphaned p.options p.here.cwd p.targets (sources.map (·.name)) l →
      ∀ contents executable, g.get? l ≠ some (.file contents executable) := by
  obtain ⟨-, hresults, hsweep⟩ := run_eq_finished.1 hrun
  have htree := p.prepare_tree h.tree
  have hbuilt := buildAll_modifies h.touches sources htree
  obtain ⟨hnames, htmp, htells⟩ := buildAll_tells hs h.touches h.files h.targets h.names
    (fun s hs => List.mem_map_of_mem hs) h.safe htree hresults
  have hswept := h.swept hbuilt htmp
  rw [hsweep] at hswept
  refine ⟨hnames, fun x hx tc htc => ?_, fun l hl contents executable => ?_⟩
  · have hmem : x.1.1 ∈ sources := mem_of_mem_answers (List.of_mem_zip hx).1
    have htarget : tc.1 ∈ p.targets := List.mem_map_of_mem htc
    have hsafe := h.safe _ hmem
    have hne : p.options.place p.here.cwd tc.1 x.1.1.name .artifact ≠ [] := by
      rw [Options.place_eq hsafe]
      simp
    have hbefore : (p.prepare fs).1.at? (p.options.place p.here.cwd tc.1 x.1.1.name .artifact) =
        fs.at? (p.options.place p.here.cwd tc.1 x.1.1.name .artifact) := by
      rcases (p.prepare_extends fs).at? (p.options.place p.here.cwd tc.1 x.1.1.name .artifact) with
        heq | ⟨-, hdir⟩
      · exact heq
      · exact absurd hdir (h.artifact tc.1 htarget x.1.1 hmem)
    have hafter := hswept.frame _ (not_orphaned_artifact htarget (List.mem_map_of_mem hmem) hsafe)
    rw [← at?_eq_get? _ hne, ← at?_eq_get? _ hne] at hafter
    rw [hafter, ← hbefore]
    exact htells x hx tc htc
  · rw [hswept.own l hl]
    exact swept_ne_file

end Contained

/-- Where a run is not strict, a compiled file is replaced by what its compiler has left, with
something in it, if that is what the result tells, and else it stays as it was.  Managed files that no
present source owns are deleted all the same, temporary files among them. -/
theorem lax_run_keeps (h : p.Contained sources fs) (hs : p.options.compile.strict = false) :
    ((Job.deadline? p.here.now p.options.compile.timeout).isSome →
      ∃ g summary, p.run sources fs = (g, .finished summary)) ∧
    ∀ g summary, p.run sources fs = (g, .finished summary) →
      summary.results.map (·.name) = sources.map (·.name) ∧
      (∀ x ∈ (p.answers sources (p.prepare fs).1).zip summary.results, ∀ tc ∈ p.compilers,
        let artifact := (p.options.artifactPath tc.1 x.1.1.name).location p.here.cwd
        (∀ n, x.2.target? tc.1 = some (.built n) → ∃ text, x.1.2 = .ok text ∧
          p.Compiled (sources.map (·.name)) (p.prepare fs).1 tc.1 tc.2 x.1.1.name
            (bucketOf x.1.1.hint text) n (g.at? artifact)) ∧
        ((∀ n, x.2.target? tc.1 ≠ some (.built n)) → g.at? artifact = fs.at? artifact)) ∧
      (∀ t ∈ p.targets, ∀ file, Manages t file →
        (∀ u ∈ p.targets, ∀ s ∈ sources, u.artifactName s.name ≠ file) →
        ∀ contents executable, g.at? ((p.options.artifactDir t).location p.here.cwd ++ [file]) ≠
          some (.file contents executable)) ∧
      ∀ t ∈ p.targets, ∀ stem contents executable,
        g.at? ((p.options.artifactDir t).location p.here.cwd ++
          [stem ++ t.extension ++ ".tmp".toList]) ≠ some (.file contents executable) := by
  refine ⟨fun hend => run_finishes hend h.prepared, fun g summary hrun => ?_⟩
  obtain ⟨hnames, htells, hswept⟩ := h.finished hs hrun
  have hgone (t : Target) (ht : t ∈ p.targets) (file : Text) (hfile : Manages t file)
      (hfree : ∀ u ∈ p.targets, ∀ s ∈ sources, u.artifactName s.name ≠ file) (contents : Bytes)
      (executable : Bool) : g.at? ((p.options.artifactDir t).location p.here.cwd ++ [file]) ≠
        some (.file contents executable) := by
    rw [at?_eq_get? _ (by simp)]
    refine hswept _ ⟨t, ht, file, hfile, rfl, fun u hu n hn => ?_⟩ contents executable
    obtain ⟨s, hs, rfl⟩ := List.mem_map.1 hn
    exact hfree u hu s hs
  exact ⟨hnames, htells, hgone, fun t ht stem => hgone t ht _ ⟨stem, .inr rfl⟩ fun u _ s _ =>
    artifactName_ne_tmp⟩

/-- The same pipeline without strictness. -/
def laxSrsCopier : Pipeline := { srsCopier with options := { compile := ⟨120000, false⟩ } }

/-- Files of an earlier run, one of them of a source that has no rules now. -/
def staleFiles : FileSystem :=
  orphanFiles.put ["dist".toList, "singbox".toList, "b.srs".toList] (some (.file [7] false))

theorem laxSrsCopier_contained : laxSrsCopier.Contained twoSources staleFiles where
  tree := by decide
  touches := srsCopier_touches
  files := by
    intro tc htc
    rw [List.mem_singleton.1 htc]
    exact Compiler.copying_makesNoDirectory []
  targets := by decide
  names := by decide
  safe := by decide
  prepared := by rfl
  artifact := by
    intro t ht s hs
    obtain rfl := List.mem_singleton.1 ht
    simp only [twoSources, List.mem_cons, List.not_mem_nil, or_false] at hs
    rcases hs with rfl | rfl <;> decide
  directory := by
    intro t ht
    obtain rfl := List.mem_singleton.1 ht
    rfl
  reach := by
    intro t ht file hne
    obtain rfl := List.mem_singleton.1 ht
    have hmem := mem_names.2 hne
    have hnames : (laxSrsCopier.prepare staleFiles).1.names
        ((laxSrsCopier.options.artifactDir .singBox).location laxSrsCopier.here.cwd) =
          ["b.srs".toList, "old.srs".toList] := by rfl
    rw [hnames, List.mem_cons, List.mem_singleton] at hmem
    rcases hmem with rfl | rfl <;> rfl

set_option maxRecDepth 10000 in
theorem laxSrsCopier_keeps :
    laxSrsCopier.Contained twoSources staleFiles ∧ laxSrsCopier.options.compile.strict = false ∧
    ∃ g summary, laxSrsCopier.run twoSources staleFiles = (g, .finished summary) ∧
      (∃ n, laxSrsCopier.Compiled (twoSources.map (·.name)) (laxSrsCopier.prepare staleFiles).1
        .singBox (Compiler.copying []) "a".toList (bucketOf (.fixed .domainText) "example.com".toList) n
        (g.at? ["dist".toList, "singbox".toList, "a.srs".toList])) ∧
      g.at? ["dist".toList, "singbox".toList, "b.srs".toList] = some (.file [7] false) ∧
      ∀ contents executable, g.at? ["dist".toList, "singbox".toList, "old.srs".toList] ≠
        some (.file contents executable) := by
  obtain ⟨-, hall⟩ := lax_run_keeps laxSrsCopier_contained rfl
  obtain ⟨g, r, r', orphans, hrun, hbuilt, hempty⟩ : ∃ g r r' orphans,
      laxSrsCopier.run twoSources staleFiles = (g, .finished ⟨[r, r'], orphans⟩) ∧
      (∃ n, r.target? .singBox = some (.built n)) ∧ r'.target? .singBox = none :=
    ⟨_, _, _, _, by rfl, ⟨_, by rfl⟩, by rfl⟩
  obtain ⟨-, htells, hgone, -⟩ := hall g _ hrun
  have hanswers : laxSrsCopier.answers twoSources (laxSrsCopier.prepare staleFiles).1 =
      [(⟨"a".toList, "example.com".toList, .fixed .domainText⟩, .ok "example.com".toList),
        (⟨"b".toList, [], .fixed .domainText⟩, .ok [])] := by rfl
  rw [hanswers] at htells
  obtain ⟨n, hbuilt⟩ := hbuilt
  obtain ⟨text, htext, hcompiled⟩ := (htells (_, r) (List.mem_cons_self ..) (.singBox, _)
    (List.mem_cons_self ..)).1 n hbuilt
  obtain rfl := Except.ok.inj htext
  have hkept := (htells (_, r') (List.mem_cons_of_mem _ (List.mem_cons_self ..)) (.singBox, _)
    (List.mem_cons_self ..)).2 (by rw [hempty]; simp)
  exact ⟨laxSrsCopier_contained, rfl, g, _, hrun, ⟨n, hcompiled⟩, hkept, hgone .singBox (by decide)
    "old.srs".toList ⟨"old".toList, .inl rfl⟩ (by decide)⟩

end RuleSets.Pipeline
