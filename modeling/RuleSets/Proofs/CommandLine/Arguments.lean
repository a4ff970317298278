import RuleSets.CommandLine.Arguments
import RuleSets.Proofs.Text.Numeral

/-!
# Accepted settings

What holds of the default settings and is kept by every argument holds of all settings that a
command line gives (`parse_induction`).  The times for compilers that are accepted are the numbers of
64 bits (`acceptsTimeout_iff`).
-/

namespace RuleSets.CommandLine

variable {arguments : List Text} {environment : Text → Option Text} {s : Settings} {g g' : Given}
  {value : Text} {bound n : Nat}

/-! ### What every argument keeps -/

section
variable {P : Settings → Prop}
  (hvalue : ∀ o value s s', P s → Setting.apply o value s = some s' → P s')
  (hflag : ∀ f s, P s → P (Flag.apply f s))

include hvalue in
theorem setValue_keeps {o : Setting} (hg : P g.settings) (h : g.setValue o value = some g') :
    P g'.settings := by
  obtain ⟨-, h⟩ := Option.ite_none_left_eq_some.1 h
  obtain ⟨s, hs, rfl⟩ := Option.map_eq_some_iff.1 h
  exact hvalue _ _ _ _ hg hs

include hflag in
theorem setFlag_keeps {f : Flag} (hg : P g.settings) (h : g.setFlag f = some g') :
    P g'.settings := by
  obtain ⟨-, h⟩ := Option.ite_none_left_eq_some.1 h
  cases h
  exact hflag f _ hg

include hvalue in
theorem complete_keeps (hg : P g.settings) (h : g.complete environment = some s) : P s := by
  unfold Given.complete at h
  generalize g.settings = start at hg h
  generalize Setting.all = os at h
  induction os generalizing start with
  | nil =>
    cases h
    exact hg
  | cons o os ih =>
    rw [List.foldlM_cons] at h
    obtain ⟨next, hnext, h⟩ := Option.bind_eq_some_iff.1 h
    refine ih next ?_ h
    split at hnext
    · cases hnext
      exact hg
    · split at hnext
      · exact hvalue _ _ _ _ hg hnext
      · cases hnext
        exact hg

include hvalue hflag

theorem readArguments_keeps (hg : P g.settings)
    (h : readArguments environment g arguments = some (.run s)) : P s := by
  have hcomplete {g : Given} (hg : P g.settings)
      (h : (g.complete environment).map Request.run = some (.run s)) : P s := by
    obtain ⟨s', hs', hrun⟩ := Option.map_eq_some_iff.1 h
    cases hrun
    exact complete_keeps hvalue hg hs'
  fun_induction readArguments environment g arguments with
  | case1 g => exact hcomplete hg h
  | case2 g rest hrest => exact hcomplete hg h
  | case4 g argument _ name o _ value rest _ ih =>
    obtain ⟨g', hg', h⟩ := Option.bind_eq_some_iff.1 h
    exact ih g' (setValue_keeps hvalue hg hg') h
  | case6 g argument _ name o _ value rest _ _ ih =>
    obtain ⟨g', hg', h⟩ := Option.bind_eq_some_iff.1 h
    exact ih g' (setValue_keeps hvalue hg hg') h
  | case11 g argument rest _ name value? _ _ _ _ _ f _ ih =>
    obtain ⟨g', hg', h⟩ := Option.bind_eq_some_iff.1 h
    exact ih g' (setFlag_keeps hflag hg hg') h
  | _ => cases h

/-- What holds of the default settings, and still does when a value is given or a flag is switched
on, holds of all settings that a command line gives. -/
theorem parse_induction (hdefault : P {}) (h : parse arguments environment = some (.run s)) : P s :=
  readArguments_keeps hvalue hflag hdefault h

end

/-! ### Numbers -/

theorem lt_of_unsigned? (h : unsigned? bound value = some n) : n < bound := by
  obtain ⟨hvalid, h⟩ := Option.ite_none_left_eq_some.1 h
  cases h
  simp only [Bool.or_eq_true, decide_eq_true_eq, not_or] at hvalid
  omega

theorem unsigned?_decimal (h : n < bound) : unsigned? bound (Text.decimal n) = some n := by
  have hdigits : ∀ c ∈ Text.decimal n, c.isDigit = true := fun c => Text.isDigit_of_mem_decimal
  have hplus : (Text.decimal n).head? ≠ some '+' := fun hhead =>
    absurd (hdigits '+' (List.mem_of_mem_head? hhead)) (by decide)
  have hread : Text.valueOf 10 (Text.decimal n) = n :=
    Text.valueOf_numeral (by decide) (by decide) n
  have hne : (Text.decimal n).isEmpty = false := List.isEmpty_eq_false_iff.2 (Text.decimal_ne_nil n)
  simp only [unsigned?, if_neg hplus, hread, hne, List.all_eq_true.2 hdigits]
  exact if_neg (by simpa using h)

/-- Whether the command line accepts a number of seconds as the time for compilers. -/
def AcceptsTimeout (n : Nat) : Prop :=
  ∃ arguments environment s, parse arguments environment = some (.run s) ∧ s.compileTimeout = n

theorem compileTimeout_lt (h : parse arguments environment = some (.run s)) :
    s.compileTimeout < Nat.pow 2 64 := by
  refine parse_induction (P := fun s => s.compileTimeout < Nat.pow 2 64) ?_ ?_ (by decide) h
  · intro o value s s' hs h
    cases o with
    | compileTimeout =>
      obtain ⟨n, hn, rfl⟩ := Option.map_eq_some_iff.1 h
      exact lt_of_unsigned? hn
    | logLevel =>
      cases h
      exact hs
    | logFormat =>
      unfold Setting.apply at h
      dsimp only at h
      split_ifs at h <;> cases h <;> exact hs
    | _ =>
      obtain ⟨x, -, rfl⟩ := Option.map_eq_some_iff.1 h
      exact hs
  · intro f s hs
    cases f <;> exact hs

theorem parse_compileTimeout (h : n < Nat.pow 2 64) :
    parse ["--compile-timeout=".toList ++ Text.decimal n] (fun _ => none) =
      some (.run { compileTimeout := n }) := by
  show (Given.setValue .nothing .compileTimeout (Text.decimal n)).bind
    (readArguments (fun _ => none) · []) = _
  have happly : Setting.apply .compileTimeout (Text.decimal n) {} = some { compileTimeout := n } := by
    rw [Setting.apply, unsigned?_decimal h]
    rfl
  rw [Given.setValue, if_neg (by decide)]
  show ((Setting.apply .compileTimeout (Text.decimal n) {}).map _).bind _ = _
  rw [happly]
  rfl

/-- The command line accepts the times that 64 bits can hold. -/
theorem acceptsTimeout_iff : AcceptsTimeout n ↔ n < Nat.pow 2 64 := by
  constructor
  · rintro ⟨arguments, environment, s, h, rfl⟩
    exact compileTimeout_lt h
  · exact fun h => ⟨_, _, _, parse_compileTimeout h, rfl⟩

end RuleSets.CommandLine
