import RuleSets.Proofs.Compiler.Copying

/-!
# Compilers as functions

A compiler whose `Effect` depends on nothing but the contents of its source `Computes` a function.
For such a compiler `compile_of_shows` says what an attempt comes to and which file system it leaves;
nothing is left in the open but the output.
-/

namespace RuleSets.Compiler

/-- A file that a compiler leaves. -/
structure Product where
  contents : Bytes
  executable : Bool

def Product.entry (product : Product) : Entry := .file product.contents product.executable

/-- What comes of a compiler. -/
inductive Effect where
  /-- It cannot be started. -/
  | refused (e : IoError)
  /-- It ends with a status, or is killed when its time is over, and leaves a file or none. -/
  | ran (status? : Option Status) (left? : Option Product)

namespace Effect

/-- The file that takes the place of the output: one with something in it, left by a compiler that has
ended well in time. -/
def product? : Effect → Option Product
  | .ran (some (.exited 0)) (some product) => if product.contents = [] then none else some product
  | _ => none

def sizeOf (left? : Option Product) : Except IoError Nat :=
  match left? with
  | some product => .ok product.contents.length
  | none => .error .notFound

/-- What an attempt comes to. -/
def outcome (c : Compiler) (tmp : Path) (here : Surroundings) (limit : Nat) : Effect → Outcome
  | .refused e => .failed (.compile .spawn e.message)
  | .ran status? left? =>
    if (Job.deadline? here.now limit).isSome then c.verdict tmp limit status? (sizeOf left?)
    else .abandoned

variable {effect : Effect} {product : Product} {c : Compiler} {tmp : Path} {here : Surroundings}
  {limit n : Nat}

theorem product?_eq_some : effect.product? = some product ↔
    effect = .ran (some (.exited 0)) (some product) ∧ product.contents ≠ [] := by
  constructor
  · intro h
    unfold product? at h
    split at h
    · split at h
      · cases h
      · rename_i hne
        cases h
        exact ⟨rfl, hne⟩
    · cases h
  · rintro ⟨rfl, hne⟩
    exact if_neg hne

theorem outcome_of_product (h : effect.product? = some product) :
    effect.outcome c tmp here limit = .abandoned ∨
      effect.outcome c tmp here limit = .built product.contents.length := by
  obtain ⟨rfl, hne⟩ := product?_eq_some.1 h
  rw [outcome]
  split
  · exact .inr (verdict_eq_built.2 ⟨rfl, rfl, List.length_pos_iff.2 hne⟩)
  · exact .inl rfl

theorem product_of_outcome (h : effect.outcome c tmp here limit = .built n) :
    ∃ product, effect.product? = some product ∧ product.contents.length = n := by
  cases effect with
  | refused e => cases h
  | ran status? left? =>
    rw [outcome] at h
    split at h
    · obtain ⟨rfl, hsize, hn⟩ := verdict_eq_built.1 h
      cases left? with
      | none => cases hsize
      | some product =>
        cases hsize
        exact ⟨product, product?_eq_some.2 ⟨rfl, List.ne_nil_of_length_pos hn⟩, rfl⟩
    · cases h

theorem outcome_ne_abandoned (hd : (Job.deadline? here.now limit).isSome) :
    effect.outcome c tmp here limit ≠ .abandoned := by
  cases effect with
  | refused e => exact fun h => by cases h
  | ran status? left? => rw [outcome, if_pos hd]; exact verdict_ne_abandoned

/-- Two attempts that are not abandoned come to the same, whatever the time of day. -/
theorem outcome_unique {here' : Surroundings} (h : effect.outcome c tmp here limit ≠ .abandoned)
    (h' : effect.outcome c tmp here' limit ≠ .abandoned) :
    effect.outcome c tmp here limit = effect.outcome c tmp here' limit := by
  cases effect with
  | refused e => rfl
  | ran status? left? =>
    have told {here : Surroundings}
        (h : (ran status? left?).outcome c tmp here limit ≠ .abandoned) :
        (ran status? left?).outcome c tmp here limit =
          c.verdict tmp limit status? (sizeOf left?) := by
      rw [outcome] at h ⊢
      split
      · rfl
      · rename_i hd
        exact absurd (if_neg hd) h
    rw [told h, told h']

end Effect

/-- Whether a compiler shows an effect on a source, and touches nothing but its output. -/
def Shows (c : Compiler) (cwd : Location) (limit : Nat) (source output : Path) (fs : FileSystem) :
    Effect → Prop
  | .refused e => c.start source output fs = .error e
  | .ran status? left? => ∃ job, c.start source output fs = .ok job ∧
      Confined (output.location cwd) fs job.states ∧ (job.observe limit).status? = status? ∧
      lastState (job.observe limit).states fs =
        fs.put (output.location cwd) (left?.map Product.entry)

/-- Whether the effect of a compiler is a function of the contents of its source. -/
def Computes (c : Compiler) (cwd : Location) (limit : Nat) (f : Bytes → Effect) : Prop :=
  ∀ source output fs contents, fs.read cwd source = .ok contents → fs.Admits cwd output →
    fs.get? (output.location cwd) = none → c.Shows cwd limit source output fs (f contents)

theorem copying_computes {cwd : Location} {limit : Nat} (h : 2 ≤ Job.lastLook limit) :
    (copying cwd).Computes cwd limit fun contents =>
      .ran (some (.exited 0)) (some ⟨contents, false⟩) := by
  intro source output fs contents hread hout hnone
  obtain ⟨executable, hx, hstart⟩ := copying_start hout hread
  rw [hnone] at hx
  subst hx
  have hseen (steps : List (Nat × FileSystem)) :=
    @Job.observe_of_ending ⟨steps, some (2, .exited 0), []⟩ limit 2 (.exited 0) rfl h
  refine ⟨_, hstart, copying_writesOnlyOutput hout _ hstart, (hseen _).2, ?_⟩
  rw [(hseen _).1]
  rfl

section
variable {c : Compiler} {here : Surroundings} {o : Options} {source output : Path}
  {fs : FileSystem} {effect : Effect} {limit : Nat}

theorem Shows.writesOnlyOutput (h : c.Shows here.cwd limit source output fs effect) :
    c.WritesOnlyOutput here.cwd source output fs := by
  intro job hjob
  cases effect with
  | refused e =>
    have hstart : c.start source output fs = .error e := h
    rw [hstart] at hjob
    cases hjob
  | ran status? left? =>
    obtain ⟨job', hstart, hconf, -, -⟩ := h
    rw [hstart] at hjob
    cases hjob
    exact hconf

theorem produce_of_shows (hout : fs.Admits here.cwd output)
    (h : c.Shows here.cwd limit source output fs effect) :
    (c.produce here limit source output fs).outcome = effect.outcome c output here limit ∧
      ∀ status? left?, effect = .ran status? left? → (Job.deadline? here.now limit).isSome →
        lastState (c.produce here limit source output fs).states fs =
          fs.put (output.location here.cwd) (left?.map Product.entry) := by
  cases effect with
  | refused e =>
    have hstart : c.start source output fs = .error e := h
    rw [produce_of_error hstart]
    exact ⟨rfl, fun status? left? h => by cases h⟩
  | ran status? left? =>
    obtain ⟨job, hstart, -, hstatus, hlast⟩ := h
    rcases hd : Job.deadline? here.now limit with _ | moment
    · rw [produce_of_overflow hstart hd, Effect.outcome, hd]
      exact ⟨rfl, fun status? left? _ h => by cases h⟩
    · rw [produce_of_deadline hstart hd, hstatus, hlast, Effect.outcome, hd]
      refine ⟨?_, fun status? left? h _ => by cases h; rfl⟩
      have hleft : (fs.put (output.location here.cwd) (left?.map Product.entry)).size here.cwd output =
          Effect.sizeOf left? := by
        rw [(hout.put hout.file (by cases left? <;> simp [Product.entry])).size_eq,
          FileSystem.get?_put_self]
        cases left? <;> rfl
      rw [hleft]
      rfl

/-- What stands at the output after an attempt, if `old` stood there before. -/
def Effect.result (effect : Effect) (strict : Bool) (old : Option Entry) : Option Entry :=
  match effect.product? with
  | some product => some product.entry
  | none => if strict then none else old

theorem Effect.result_ne_directory {strict : Bool} {old : Option Entry} (h : old ≠ some .directory) :
    effect.result strict old ≠ some .directory := by
  unfold Effect.result
  split
  · simp [Product.entry]
  · split
    · simp
    · exact h

/-- An attempt comes to what the compiler's effect makes of it.  Unless it is abandoned the temporary
file is gone and the output holds the product, or after a failure what the mode leaves there. -/
theorem compile_of_shows (hout : fs.Admits here.cwd output) (htmp : fs.Admits here.cwd output.tmp)
    (h : c.Shows here.cwd o.timeout source output.tmp
      (fs.put (output.tmp.location here.cwd) none) effect) :
    (c.compile here o source output fs).outcome = effect.outcome c output.tmp here o.timeout ∧
    ((c.compile here o source output fs).outcome ≠ .abandoned →
      (c.compile here o source output fs).final fs =
        (fs.put (output.tmp.location here.cwd) none).put (output.location here.cwd)
          (effect.result o.strict (fs.get? (output.location here.cwd)))) := by
  have htmp₁ : (fs.put (output.tmp.location here.cwd) none).Admits here.cwd output.tmp :=
    htmp.put htmp.file (by simp)
  have hkept : (fs.put (output.tmp.location here.cwd) none).get? (output.location here.cwd) =
      fs.get? (output.location here.cwd) := FileSystem.get?_put_of_ne hout.location_tmp_ne.symm
  obtain ⟨houtcome, hlast⟩ := produce_of_shows htmp₁ h
  have hmade := h.writesOnlyOutput.confined o.timeout
  rcases compile_cases (o := o) hout htmp rfl rfl hmade with
    ⟨ho, ha⟩ | ⟨f, ho, ha⟩ | ⟨contents, executable, ho, hne, hfile, ha⟩ <;> rw [houtcome] at ho <;>
    rw [ha, ho]
  · exact ⟨rfl, fun hne => absurd rfl hne⟩
  · refine ⟨rfl, fun _ => ?_⟩
    have hnone : effect.product? = none := by
      refine Option.eq_none_iff_forall_ne_some.2 fun product hproduct => ?_
      rcases Effect.outcome_of_product hproduct with he | he
      · rw [he] at ho; cases ho
      · rw [he] at ho; cases ho
    rw [Effect.result, hnone]
    cases hs : o.strict with
    | false =>
      rw [Attempt.final, if_neg Bool.false_ne_true, lastState_append_singleton]
      exact (FileSystem.put_eq_self hkept).symm
    | true => rw [Attempt.final, if_pos rfl, lastState_append_pair]; rfl
  · refine ⟨rfl, fun _ => ?_⟩
    obtain ⟨product, hproduct, -⟩ := Effect.product_of_outcome ho
    obtain ⟨rfl, -⟩ := Effect.product?_eq_some.1 hproduct
    have hd : (Job.deadline? here.now o.timeout).isSome := by
      rw [Effect.outcome] at ho
      split at ho
      · assumption
      · cases ho
    have hentry : product.entry = .file contents executable := by
      have hput := (hlast _ _ rfl hd).symm.trans hfile
      have hget := congrArg (fun st : FileSystem => st.get? (output.tmp.location here.cwd)) hput
      simp only [FileSystem.get?_put_self, Option.map_some] at hget
      exact Option.some.inj hget
    rw [Effect.result, hproduct, Attempt.final, lastState_append_singleton, ← hentry]

end

end RuleSets.Compiler
