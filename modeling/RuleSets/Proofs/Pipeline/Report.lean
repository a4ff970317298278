import Mathlib.Data.List.Basic
import RuleSets.Proofs.Pipeline.Build

/-!
# What results tell

The results of a run stand in the order of the sources, one for each (`map_name_of_results`), and a
result tells of every target what came of its task (`target?_eq`): a built target is one whose
compiler has left a product (`target?_built`).
-/

namespace RuleSets.Pipeline

/-! ### Lists of results -/

section
variable {α β γ : Type} {f : α → Option β} {l l' : List α} {bs : List β}

theorem mapM_eq_some : l.mapM f = some bs ↔ (∀ a ∈ l, f a ≠ none) ∧ l.filterMap f = bs := by
  induction l generalizing bs with
  | nil => simp [pure, eq_comm]
  | cons a l ih =>
    rw [List.mapM_cons]
    rcases hf : f a with _ | b
    · constructor
      · intro h
        cases h
      · rintro ⟨hall, -⟩
        exact absurd hf (hall a (List.mem_cons_self ..))
    · rw [List.filterMap_cons_some hf]
      rcases hl : l.mapM f with _ | bs'
      · constructor
        · intro h
          cases h
        · rintro ⟨hall, -⟩
          have := ih.2 ⟨fun a' ha' => hall a' (List.mem_cons_of_mem _ ha'), rfl⟩
          rw [hl] at this
          cases this
      · obtain ⟨hall, hbs⟩ := ih.1 hl
        constructor
        · intro h
          cases h
          refine ⟨fun a' ha' => ?_, by rw [hbs]⟩
          rcases List.mem_cons.1 ha' with rfl | ha'
          · rw [hf]
            simp
          · exact hall a' ha'
        · rintro ⟨-, rfl⟩
          rw [hbs]
          rfl

theorem mapM_perm (hl : l.Perm l') (h : l.mapM f = some bs) :
    ∃ bs', l'.mapM f = some bs' ∧ bs'.Perm bs := by
  obtain ⟨hall, rfl⟩ := mapM_eq_some.1 h
  exact ⟨l'.filterMap f, mapM_eq_some.2 ⟨fun a ha => hall a (hl.mem_iff.2 ha), rfl⟩,
    (hl.filterMap f).symm⟩

theorem map_of_mapM {g : β → γ} {k : α → γ} (h : l.mapM f = some bs)
    (hg : ∀ a b, f a = some b → g b = k a) : bs.map g = l.map k := by
  obtain ⟨hall, rfl⟩ := mapM_eq_some.1 h
  clear h
  induction l with
  | nil => rfl
  | cons a l ih =>
    obtain ⟨b, hb⟩ := Option.ne_none_iff_exists'.1 (hall a (List.mem_cons_self ..))
    rw [List.filterMap_cons_some hb, List.map_cons, List.map_cons, hg a b hb,
      ih fun a' ha' => hall a' (List.mem_cons_of_mem _ ha')]

theorem mem_zip_of_mapM {a : α} {b : β} (h : l.mapM f = some bs) (hab : (a, b) ∈ l.zip bs) :
    f a = some b := by
  obtain ⟨hall, rfl⟩ := mapM_eq_some.1 h
  clear h
  induction l with
  | nil => cases hab
  | cons a' l ih =>
    obtain ⟨b', hb⟩ := Option.ne_none_iff_exists'.1 (hall a' (List.mem_cons_self ..))
    rw [List.filterMap_cons_some hb, List.zip_cons_cons] at hab
    rcases List.mem_cons.1 hab with he | hab
    · cases he
      exact hb
    · exact ih (fun a' ha' => hall a' (List.mem_cons_of_mem _ ha')) hab

end

/-! ### Statuses -/

section
variable {x : Task} {effects : Effects} {o : Options} {here here' : Surroundings} {n : Nat}
  {status status' : TargetStatus}

theorem status?_built (h : x.status? effects o here ≠ none) :
    x.status? effects o here = some (.built n) ↔ ∃ text product, x.text? = some text ∧
      (effects x.compiler (Utf8.encode text)).product? = some product ∧
      product.contents.length = n := by
  obtain ⟨t, c, name, text | text⟩ := x
  · simp [Task.status?]
  · rw [Task.status?] at h ⊢
    dsimp only at h ⊢
    constructor
    · intro hbuilt
      split at hbuilt
      · cases hbuilt
      · rename_i ho
        cases hbuilt
        obtain ⟨product, hproduct, hn⟩ := Compiler.Effect.product_of_outcome ho
        exact ⟨text, product, rfl, hproduct, hn⟩
      · cases hbuilt
    · rintro ⟨text, product, ⟨⟩, hproduct, rfl⟩
      rcases @Compiler.Effect.outcome_of_product _ _ c (o.filePath t name .tmp) here o.compile.timeout
        hproduct with ho | ho
      · rw [ho] at h
        exact absurd rfl h
      · rw [ho]

theorem status?_unique (h : x.status? effects o here = some status)
    (h' : x.status? effects o here' = some status') : status = status' := by
  obtain ⟨t, c, name, text | text⟩ := x
  · cases h
    cases h'
    rfl
  · rw [Task.status?] at h h'
    dsimp only at h h'
    have hend := Compiler.Effect.outcome_unique (fun ho => by rw [ho] at h; cases h)
      fun ho => by rw [ho] at h'; cases h'
    rw [hend, h'] at h
    exact (Option.some.inj h).symm

end

/-! ### Results -/

section
variable {p : Pipeline} {effects : Effects} {s : Source} {answer : Except Failure Text}
  {r : BuildResult} {t : Target} {c : Compiler}

/-- The part of a result that no target has to do with. -/
def head (name : Text) (hint : Hint) : Except Failure Text → BuildResult
  | .error f => ⟨name, none, [], .fetchFailed f.report, []⟩
  | .ok text =>
    if (bucketOf hint text).isEmpty then ⟨name, some (Format.detect hint text), [], .empty, []⟩
    else ⟨name, some (Format.detect hint text), (bucketOf hint text).counts, .extracted, []⟩

theorem head_of_result (h : p.result? effects s answer = some r) :
    { r with targets := [] } = head s.name s.hint answer := by
  cases answer with
  | error f => cases h; rfl
  | ok text =>
    rw [result?] at h
    rw [head]
    split at h
    · rename_i hempty
      cases h
      rw [if_pos hempty]
    · rename_i hne
      obtain ⟨statuses, -, rfl⟩ := Option.map_eq_some_iff.1 h
      rw [if_neg hne]

theorem name_of_result (h : p.result? effects s answer = some r) : r.name = s.name := by
  have hname := congrArg BuildResult.name (head_of_result h)
  dsimp only at hname
  rw [hname]
  cases answer with
  | error f => rfl
  | ok text =>
    rw [head]
    split <;> rfl

/-- The results of a run stand in the order of its sources. -/
theorem map_name_of_results {sources : List Source} {fs : FileSystem} {results : List BuildResult}
    (h : (p.answers sources fs).mapM (fun sa => p.result? effects sa.1 sa.2) = some results) :
    results.map (·.name) = sources.map (·.name) :=
  calc results.map (·.name)
      = (p.answers sources fs).map (·.1.name) := map_of_mapM h fun _ _ hr => name_of_result hr
    _ = ((p.answers sources fs).map (·.1)).map (·.name) := by rw [List.map_map]; rfl
    _ = sources.map (·.name) := by rw [p.answers_map_fst]

theorem outcome_of_result (h : p.result? effects s answer = some r) :
    r.outcome = .extracted ↔ ∃ text, answer = .ok text ∧ (bucketOf s.hint text).isEmpty = false := by
  have houtcome := congrArg BuildResult.outcome (head_of_result h)
  dsimp only at houtcome
  rw [houtcome]
  cases answer with
  | error f => simp [head]
  | ok text =>
    rw [head]
    split
    · rename_i hempty
      simp [hempty]
    · rename_i hne
      simpa using hne

theorem find?_of_mapM {cs : List (Target × Compiler)} {f : Target × Compiler → Option TargetStatus}
    {statuses : List (Target × TargetStatus)} (hnodup : (cs.map (·.1)).Nodup)
    (h : cs.mapM (fun tc => (f tc).map (tc.1, ·)) = some statuses) (htc : (t, c) ∈ cs) :
    (statuses.find? (·.1 == t)).map (·.2) = f (t, c) := by
  obtain ⟨hall, rfl⟩ := mapM_eq_some.1 h
  clear h
  induction cs with
  | nil => cases htc
  | cons tc cs ih =>
    rw [List.map_cons, List.nodup_cons] at hnodup
    obtain ⟨entry, hentry⟩ := Option.ne_none_iff_exists'.1 (hall tc (List.mem_cons_self ..))
    obtain ⟨status, hstatus, rfl⟩ := Option.map_eq_some_iff.1 hentry
    rw [List.filterMap_cons_some (f := fun tc => (f tc).map (tc.1, ·)) hentry]
    rcases List.mem_cons.1 htc with he | htc
    · subst he
      rw [List.find?_cons_of_pos (by exact beq_self_eq_true t), hstatus]
      rfl
    · have hne : ¬ (tc.1 == t) = true := fun he =>
        hnodup.1 (eq_of_beq he ▸ List.mem_map_of_mem htc)
      rw [List.find?_cons_of_neg (by exact hne)]
      exact ih hnodup.2 htc fun tc' htc' => hall tc' (List.mem_cons_of_mem _ htc')

/-- A result tells of an enabled target what came of its task. -/
theorem target?_eq (hnodup : p.targets.Nodup) (h : p.result? effects s answer = some r)
    (htc : (t, c) ∈ p.compilers) : r.target? t =
      match answer with
      | .error _ => none
      | .ok text => if (bucketOf s.hint text).isEmpty then none
        else (p.taskOf t c s.name (bucketOf s.hint text)).status? effects p.options p.here := by
  cases answer with
  | error f => cases h; rfl
  | ok text =>
    rw [result?] at h
    dsimp only
    split at h
    · rename_i hempty
      cases h
      rw [if_pos hempty]
      rfl
    · rename_i hne
      obtain ⟨statuses, hstatuses, rfl⟩ := Option.map_eq_some_iff.1 h
      rw [if_neg hne]
      exact find?_of_mapM (f := fun tc =>
        (p.taskOf tc.1 tc.2 s.name (bucketOf s.hint text)).status? effects p.options p.here)
        hnodup hstatuses htc

theorem targets_of_result {text : Text} (h : p.result? effects s (.ok text) = some r)
    (hne : ¬ (bucketOf s.hint text).isEmpty = true) :
    (∀ tc ∈ p.compilers, (p.taskOf tc.1 tc.2 s.name (bucketOf s.hint text)).status? effects p.options
      p.here ≠ none) ∧
    r.targets = p.compilers.filterMap fun tc =>
      ((p.taskOf tc.1 tc.2 s.name (bucketOf s.hint text)).status? effects p.options p.here).map
        (tc.1, ·) := by
  rw [result?, if_neg hne] at h
  obtain ⟨statuses, hstatuses, rfl⟩ := Option.map_eq_some_iff.1 h
  obtain ⟨hall, rfl⟩ := mapM_eq_some.1 hstatuses
  refine ⟨fun tc htc hn => hall tc htc ?_, rfl⟩
  rw [hn]
  rfl

/-- A result tells that a target was built if its compiler has left a product, and only then. -/
theorem target?_built {n : Nat} (hnodup : p.targets.Nodup)
    (h : p.result? effects s answer = some r) (htc : (t, c) ∈ p.compilers) :
    r.target? t = some (.built n) ↔
      ∃ product, p.Yields effects t c s answer product ∧ product.contents.length = n := by
  rw [target?_eq hnodup h htc]
  cases answer with
  | error f =>
    constructor
    · intro hn
      cases hn
    · rintro ⟨product, ⟨text, ⟨⟩, -⟩, -⟩
  | ok text =>
    dsimp only
    split
    · rename_i hempty
      constructor
      · intro hn
        cases hn
      · rintro ⟨product, ⟨text, ⟨⟩, hcontent, -⟩, -⟩
        rw [hasContent_of_isEmpty hempty] at hcontent
        cases hcontent
    · rename_i hne
      have htold := (targets_of_result h hne).1 (t, c) htc
      have hbuilt := status?_built (n := n) htold
      rw [hbuilt]
      constructor
      · rintro ⟨text', product, htext, hproduct, hn⟩
        exact ⟨product, yields_iff.2 ⟨text', htext, hproduct⟩, hn⟩
      · rintro ⟨product, hyields, hn⟩
        obtain ⟨text', htext, hproduct⟩ := yields_iff.1 hyields
        exact ⟨text', product, htext, hproduct, hn⟩

/-- Where the end of a compiler's time can be told, every source has a result. -/
theorem result?_ne_none (hd : (Job.deadline? p.here.now p.options.compile.timeout).isSome) :
    p.result? effects s answer ≠ none := by
  have hstatus (x : Task) : x.status? effects p.options p.here ≠ none := by
    obtain ⟨t, c, name, text | text⟩ := x
    · exact fun h => by cases h
    · rw [Task.status?]
      dsimp only
      split
      · rename_i ho
        exact absurd ho (Compiler.Effect.outcome_ne_abandoned hd)
      · simp
      · simp
  cases answer with
  | error f => exact fun h => by cases h
  | ok text =>
    rw [result?]
    split
    · simp
    · rw [mapM_eq_some.2 ⟨fun tc _ => ?_, rfl⟩]
      · simp
      · obtain ⟨status, hs⟩ := Option.ne_none_iff_exists'.1
          (hstatus (p.taskOf tc.1 tc.2 s.name (bucketOf s.hint text)))
        rw [hs]
        simp

end

end RuleSets.Pipeline
