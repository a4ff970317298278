import RuleSets.Source.Format
import RuleSets.Target

/-!
# Results

What came of building a source, and of a whole run.  `Summary.tally` says that every source is
counted once: as succeeded, as empty or as failed.
-/

namespace RuleSets.Pipeline

/-- What came of one target of a source. -/
inductive TargetStatus where
  /-- A compiled file of this many bytes is in place. -/
  | built (bytes : Nat)
  /-- There was nothing to compile. -/
  | noRules
  /-- Emitting or compiling failed. -/
  | failed (reason : Text)
deriving DecidableEq, Repr

namespace TargetStatus

/-- Whether a target has failed. -/
def isFailed : TargetStatus → Bool
  | failed _ => true
  | _ => false

/-- The bytes that were written for a target. -/
def bytes : TargetStatus → Nat
  | built n => n
  | _ => 0

end TargetStatus

/-- How far the building of a source got. -/
inductive Outcome where
  /-- Rules were extracted and handed to the targets. -/
  | extracted
  /-- No rule was found. -/
  | empty
  /-- The text could not be fetched. -/
  | fetchFailed (reason : Text)
deriving DecidableEq, Repr

/-- What came of building a source. -/
structure BuildResult where
  name : Text
  format? : Option Format
  counts : List (Kind × Nat)
  outcome : Outcome
  targets : List (Target × TargetStatus)
deriving DecidableEq, Repr

namespace BuildResult

/-- Whether rules were extracted and no target failed. -/
def isSuccess (r : BuildResult) : Bool :=
  r.outcome == .extracted && !r.targets.any (·.2.isFailed)

/-- Whether no rule was found. -/
def isEmpty (r : BuildResult) : Bool := r.outcome == .empty

/-- Whether fetching or a target failed. -/
def isFailure (r : BuildResult) : Bool := !r.isEmpty && !r.isSuccess

/-- What came of a target, if it was built. -/
def target? (r : BuildResult) (t : Target) : Option TargetStatus :=
  (r.targets.find? (·.1 == t)).map (·.2)

/-- The bytes that were written for all targets. -/
def bytes (r : BuildResult) : Nat := (r.targets.map (·.2.bytes)).foldr (· + ·) 0

end BuildResult

/-- What came of a run. -/
structure Summary where
  results : List BuildResult
  /-- The number of files that were deleted because no source owns them. -/
  orphans : Nat
deriving DecidableEq, Repr

namespace Summary

/-- The number of sources that were built for every target. -/
def succeeded (s : Summary) : Nat := s.results.countP (·.isSuccess)

/-- The number of sources that could not be fetched or not be built for some target. -/
def failed (s : Summary) : Nat := s.results.countP (·.isFailure)

/-- The number of sources without rules. -/
def emptied (s : Summary) : Nat := s.results.countP (·.isEmpty)

theorem tally (s : Summary) : s.succeeded + s.failed + s.emptied = s.results.length := by
  unfold succeeded failed emptied
  induction s.results with
  | nil => rfl
  | cons r l ih =>
    simp only [List.countP_cons, List.length_cons]
    have : (if r.isSuccess = true then 1 else 0) + (if r.isFailure = true then 1 else 0) +
        (if r.isEmpty = true then 1 else 0) = 1 := by
      unfold BuildResult.isFailure BuildResult.isEmpty BuildResult.isSuccess
      cases r.outcome <;> cases r.targets.any (·.2.isFailed) <;> rfl
    omega

end Summary
end RuleSets.Pipeline
