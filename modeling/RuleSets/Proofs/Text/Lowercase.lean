import Mathlib.Data.List.Basic
import Mathlib.Tactic.SplitIfs
import RuleSets.Proofs.Text.Trim
import RuleSets.Text.Lowercase

/-!
# What lower case leaves

Signs, digits and white space are no letters and lie apart from all letters, so they are kept and
nothing else is lowered to one of them (`lowerAt_of_isKept`, `eq_of_mem_lowerAt`).  Therefore lower
case changes no prefix of signs (`isPrefix_lowerFrom`) and no white space at the ends of a text.  No
letter of the table is lowered to another one of it, so lower case changes nothing the second time
(`lower_lower`).
-/

namespace RuleSets.Text

variable {s p before : Text} {c d : Char} {m n : Nat}

/-! ### The table -/

/-- Every letter with a lower-case form, and that form, come after the digits. -/
theorem digit_lt_caseRuns : ∀ r ∈ caseRuns, 64 < r.first ∧ 64 < (r.first : Int) + r.offset := by
  decide +kernel

/-- Whether a code point is one of the letters of a run. -/
def CaseRun.Has (r : CaseRun) (n : Nat) : Prop :=
  r.first ≤ n ∧ n ≤ r.last ∧ (n - r.first) % r.step = 0

theorem lowerCode_cases {runs : List CaseRun}
    (hruns : ∀ r ∈ runs, 64 < r.first ∧ 64 < (r.first : Int) + r.offset) (n : Nat) :
    lowerCode n runs = n ∨ ∃ r ∈ runs, r.Has n ∧ (lowerCode n runs : Int) = n + r.offset := by
  induction runs with
  | nil => exact .inl rfl
  | cons r runs ih =>
    obtain ⟨⟨-, hoffset⟩, hruns⟩ := List.forall_mem_cons.1 hruns
    rw [lowerCode]
    split_ifs with hlast hstep
    · right
      refine ⟨r, List.mem_cons_self .., ⟨hstep.1, hlast, hstep.2⟩, ?_⟩
      omega
    · exact .inl rfl
    · rcases ih hruns with h | ⟨q, hq, h⟩
      · exact .inl h
      · exact .inr ⟨q, List.mem_cons_of_mem _ hq, h⟩

theorem lowerCode_of_not_has {runs : List CaseRun} (h : ∀ r ∈ runs, ¬ r.Has n) :
    lowerCode n runs = n := by
  induction runs with
  | nil => rfl
  | cons r runs ih =>
    obtain ⟨hr, hruns⟩ := List.forall_mem_cons.1 h
    rw [lowerCode]
    split_ifs with hlast hstep
    · exact absurd ⟨hstep.1, hlast, hstep.2⟩ hr
    · rfl
    · exact ih hruns

/-- Whether a run has none of the code points from `lo` to `hi`, or of every second one of these. -/
def CaseRun.misses (lo hi : Nat) (alternate : Bool) (q : CaseRun) : Bool :=
  hi.blt q.first || q.last.blt lo || q.step == 2 && alternate && (lo - q.first) % 2 == 1

/-- Whether no letter of a run is lowered to a letter. -/
def CaseRun.lowersOnce (r : CaseRun) : Bool :=
  caseRuns.all (misses ((r.first : Int) + r.offset).toNat ((r.last : Int) + r.offset).toNat
    (r.step == 2 || r.first == r.last))

theorem all_lowersOnce : caseRuns.all CaseRun.lowersOnce = true := by decide +kernel

theorem CaseRun.not_has {r q : CaseRun} (hr : r.lowersOnce = true) (hq : q ∈ caseRuns)
    (hn : r.Has n) (hm : (m : Int) = n + r.offset) : ¬ q.Has m := by
  rintro ⟨hfirst, hlast, hstep⟩
  obtain ⟨hfirst', hlast', hstep'⟩ := hn
  have hmiss := List.all_eq_true.1 hr q hq
  simp only [misses, Bool.or_eq_true, Bool.and_eq_true, Nat.blt_eq, beq_iff_eq] at hmiss
  rcases hmiss with (h | h) | ⟨⟨hq, hr⟩, hparity⟩
  · omega
  · omega
  · rw [hq] at hstep
    rcases hr with hr | hr
    · rw [hr] at hstep'
      omega
    · omega

theorem lowerCode_lowerCode (n : Nat) :
    lowerCode (lowerCode n caseRuns) caseRuns = lowerCode n caseRuns := by
  rcases lowerCode_cases digit_lt_caseRuns n with hn | ⟨r, hr, hhas, hn⟩
  · rw [hn, hn]
  · exact lowerCode_of_not_has fun q hq =>
      CaseRun.not_has (List.all_eq_true.1 all_lowersOnce r hr) hq hhas hn

/-! ### Code points that are kept -/

/-- Whether no code point of a range has a lower-case form or is one. -/
def IsFree (lo hi : Nat) : Prop := ∀ r ∈ caseRuns,
  (r.last < lo ∨ hi < r.first) ∧ ((r.last : Int) + r.offset < lo ∨ hi < (r.first : Int) + r.offset)

instance (lo hi : Nat) : Decidable (IsFree lo hi) := List.decidableBAll _ caseRuns

theorem lowerCode_eq {lo hi : Nat} (hfree : IsFree lo hi)
    (h : lo ≤ n ∧ n ≤ hi ∨ lo ≤ lowerCode n caseRuns ∧ lowerCode n caseRuns ≤ hi) :
    lowerCode n caseRuns = n := by
  rcases lowerCode_cases digit_lt_caseRuns n with hn | ⟨r, hr, ⟨hfirst, hlast, -⟩, hn⟩
  · exact hn
  · have := hfree r hr
    omega

/-- The signs and digits, and the ranges of white space. -/
def keptRanges : List (Nat × Nat) := [
  (1, 0x40), (0x85, 0x85), (0xA0, 0xA0), (0x1680, 0x1680), (0x2000, 0x200A), (0x2028, 0x2029),
  (0x202F, 0x202F), (0x205F, 0x205F), (0x3000, 0x3000)]

theorem isFree_keptRanges : ∀ r ∈ keptRanges, 0 < r.1 ∧ IsFree r.1 r.2 := by decide +kernel

/-- Whether a character is no letter, by one of these ranges. -/
def IsKept (c : Char) : Prop := ∃ r ∈ keptRanges, r.1 ≤ c.toNat ∧ c.toNat ≤ r.2

instance (c : Char) : Decidable (IsKept c) := List.decidableBEx _ keptRanges

theorem IsKept.of_isBlank (h : isBlank c = true) : IsKept c := by
  simp only [isBlank, Bool.or_eq_true, Bool.and_eq_true, decide_eq_true_eq, beq_iff_eq] at h
  simp only [IsKept, keptRanges, List.mem_cons, List.not_mem_nil, or_false, exists_eq_or_imp,
    exists_eq_left]
  omega

/-- Whether a character is not after the period. -/
def IsSign (c : Char) : Prop := 0 < c.toNat ∧ c.toNat ≤ 46

theorem IsKept.of_isSign (h : IsSign c) : IsKept c :=
  ⟨(1, 0x40), List.mem_cons_self .., h.1, Nat.le_trans h.2 (by decide)⟩

/-! ### Characters -/

/-- Whether a character is its own lower-case form, in every context. -/
def IsLowered (c : Char) : Prop := c ≠ 'Σ' ∧ lowerChar c = [c]

instance (c : Char) : Decidable (IsLowered c) := inferInstanceAs (Decidable (_ ∧ _))

theorem IsLowered.of_code (hsigma : c ≠ 'Σ') (hdotted : c ≠ '\u0130')
    (h : lowerCode c.toNat caseRuns = c.toNat) : IsLowered c := by
  refine ⟨hsigma, ?_⟩
  rw [lowerChar, if_neg hdotted, if_neg hsigma, h, Char.ofNat_toNat]

theorem IsLowered.of_range {lo hi : Nat} (hfree : IsFree lo hi) (hc : lo ≤ c.toNat ∧ c.toNat ≤ hi)
    (hsigma : c ≠ 'Σ') (hdotted : c ≠ '\u0130') : IsLowered c :=
  .of_code hsigma hdotted (lowerCode_eq hfree (.inl hc))

theorem IsKept.isLowered (h : IsKept c) : IsLowered c := by
  have hsigma : c ≠ 'Σ' := by
    rintro rfl
    exact absurd h (by decide)
  have hdotted : c ≠ '\u0130' := by
    rintro rfl
    exact absurd h (by decide)
  obtain ⟨r, hr, hc⟩ := h
  exact .of_range (isFree_keptRanges r hr).2 hc hsigma hdotted

theorem toNat_ofNat_or (n : Nat) : (Char.ofNat n).toNat = n ∨ Char.ofNat n = '\x00' := by
  by_cases hn : n.isValidChar
  · left
    rw [Char.ofNat, dif_pos hn]
    rfl
  · right
    rw [Char.ofNat, dif_neg hn]
    rfl

/-- A form in a range without letters is the character itself. -/
theorem ofNat_lowerCode_eq {lo hi : Nat} (hlo : 0 < lo) (hfree : IsFree lo hi)
    (hd : lo ≤ d.toNat ∧ d.toNat ≤ hi) (h : d = Char.ofNat (lowerCode c.toNat caseRuns)) : d = c := by
  rcases toNat_ofNat_or (lowerCode c.toNat caseRuns) with hcode | hzero
  · rw [h, hcode] at hd
    rw [h, lowerCode_eq hfree (.inr hd), Char.ofNat_toNat]
  · rw [h, hzero] at hd
    exact absurd (Nat.lt_of_lt_of_le hlo hd.1) (by decide)

/-! ### Lowered characters -/

/-- What a character is lowered to between those before it, in reverse, and those behind it. -/
def lowerAt (before : Text) (c : Char) (s : Text) : Text :=
  if c = 'Σ' && meetsCased before && !meetsCased s then ['ς'] else lowerChar c

theorem lowerFrom_cons (before s : Text) (c : Char) :
    lowerFrom before (c :: s) = lowerAt before c s ++ lowerFrom (c :: before) s := rfl

theorem lowerAt_ne_nil : lowerAt before c s ≠ [] := by
  rw [lowerAt, lowerChar]
  split_ifs <;> simp

theorem lowerAt_of_isLowered (h : IsLowered c) : lowerAt before c s = [c] := by
  rw [lowerAt, if_neg (by simp [h.1]), h.2]

theorem mem_lowerAt (h : d ∈ lowerAt before c s) :
    (d = 'ς' ∨ d = 'σ' ∨ d = 'i' ∨ d = '\u0307') ∨
      c ≠ 'Σ' ∧ c ≠ '\u0130' ∧ d = Char.ofNat (lowerCode c.toNat caseRuns) := by
  rw [lowerAt, lowerChar] at h
  split_ifs at h with hfinal hdotted hsigma
  · exact .inl (.inl (List.mem_singleton.1 h))
  · simp only [List.mem_cons, List.not_mem_nil, or_false] at h
    exact .inl (.inr (.inr h))
  · exact .inl (.inr (.inl (List.mem_singleton.1 h)))
  · exact .inr ⟨hsigma, hdotted, List.mem_singleton.1 h⟩

/-- Nothing else is lowered to a character that is kept. -/
theorem eq_of_mem_lowerAt (hd : d ∈ lowerAt before c s) (h : IsKept d) : d = c := by
  rcases mem_lowerAt hd with hletter | ⟨-, -, hcode⟩
  · rcases hletter with rfl | rfl | rfl | rfl
    all_goals exact absurd h (by decide)
  · obtain ⟨r, hr, hrange⟩ := h
    obtain ⟨hpos, hfree⟩ := isFree_keptRanges r hr
    exact ofNat_lowerCode_eq hpos hfree hrange hcode

theorem isLowered_of_mem_lowerAt (hd : d ∈ lowerAt before c s) : IsLowered d := by
  rcases mem_lowerAt hd with hletter | ⟨hsigma, hdotted, hcode⟩
  · rcases hletter with rfl | rfl | rfl | rfl
    all_goals decide
  · -- Neither of the two characters outside the table is a form in it.
    have hsigma' : d ≠ 'Σ' := by
      rintro rfl
      have hfree : IsFree 0x3A3 0x3A3 := by decide +kernel
      exact hsigma (ofNat_lowerCode_eq (by decide) hfree (by decide) hcode).symm
    have hdotted' : d ≠ '\u0130' := by
      rintro rfl
      have hfree : IsFree 0x130 0x130 := by decide +kernel
      exact hdotted (ofNat_lowerCode_eq (by decide) hfree (by decide) hcode).symm
    rcases toNat_ofNat_or (lowerCode c.toNat caseRuns) with htoNat | hzero
    · refine .of_code hsigma' hdotted' ?_
      rw [hcode, htoNat, lowerCode_lowerCode]
    · rw [hcode, hzero]
      decide

/-! ### Texts -/

theorem mem_lowerFrom (hd : d ∈ lowerFrom before s) :
    ∃ before' c s', c ∈ s ∧ d ∈ lowerAt before' c s' := by
  induction s generalizing before with
  | nil => cases hd
  | cons c s ih =>
    rw [lowerFrom_cons] at hd
    rcases List.mem_append.1 hd with hd | hd
    · exact ⟨before, c, s, List.mem_cons_self .., hd⟩
    · obtain ⟨before', c', s', hc, hd⟩ := ih hd
      exact ⟨before', c', s', List.mem_cons_of_mem _ hc, hd⟩

/-- What is kept in lower case was there before. -/
theorem mem_of_mem_lower (hd : d ∈ lower s) (h : IsKept d) : d ∈ s := by
  obtain ⟨before, c, s', hc, hd⟩ := mem_lowerFrom hd
  exact eq_of_mem_lowerAt hd h ▸ hc

theorem lowerFrom_of_isLowered (h : ∀ c ∈ s, IsLowered c) : lowerFrom before s = s := by
  induction s generalizing before with
  | nil => rfl
  | cons c s ih =>
    obtain ⟨hc, hs⟩ := List.forall_mem_cons.1 h
    rw [lowerFrom_cons, lowerAt_of_isLowered hc, ih hs]
    rfl

theorem isLowered_of_mem_lower (hd : d ∈ lower s) : IsLowered d := by
  obtain ⟨before, c, s', -, hd⟩ := mem_lowerFrom hd
  exact isLowered_of_mem_lowerAt hd

theorem lower_lower (s : Text) : lower (lower s) = lower s :=
  lowerFrom_of_isLowered fun _ => isLowered_of_mem_lower

theorem lower_eq_self (h : ∀ c ∈ s, c.toNat ≤ 64) : lower s = s := by
  refine lowerFrom_of_isLowered fun c hc => ?_
  have hfree : IsFree 0 64 := fun r hr => by
    have := digit_lt_caseRuns r hr
    omega
  have hle := h c hc
  refine .of_range hfree ⟨Nat.zero_le _, hle⟩ ?_ ?_
  · rintro rfl
    exact absurd hle (by decide)
  · rintro rfl
    exact absurd hle (by decide)

theorem lowerFrom_eq_nil : lowerFrom before s = [] ↔ s = [] := by
  cases s with
  | nil => simp [lowerFrom]
  | cons c s => simp [lowerFrom_cons, lowerAt_ne_nil]

theorem lower_eq_nil : lower s = [] ↔ s = [] := lowerFrom_eq_nil

theorem length_lowerAt : (lowerAt before c s).length = if c = '\u0130' then 2 else 1 := by
  rw [lowerAt, lowerChar]
  split_ifs with hsigma hdotted
  · simp only [Bool.and_eq_true, decide_eq_true_eq] at hsigma hdotted
    rw [hsigma.1.1] at hdotted
    exact absurd hdotted (by decide)
  all_goals rfl

theorem length_lowerFrom : (lowerFrom before s).length = s.length + s.count '\u0130' := by
  induction s generalizing before with
  | nil => rfl
  | cons c s ih =>
    rw [lowerFrom_cons, List.length_append, length_lowerAt, ih, List.length_cons, List.count_cons]
    by_cases hc : c = '\u0130'
    · simp only [hc, if_true, beq_self_eq_true]
      omega
    · simp only [hc, if_false, beq_iff_eq]
      omega

/-- A part of a text is shorter in lower case too. -/
theorem lower_ne_of_suffix {t : Text} (h : t <:+ s) : lower t ≠ lower (c :: s) := by
  intro he
  have hlength := congrArg List.length he
  rw [lower, lower, length_lowerFrom, length_lowerFrom, List.length_cons, List.count_cons] at hlength
  have hle := h.length_le
  have hcount := h.sublist.count_le '\u0130'
  omega

/-- The first character of a text and of its lower-case form are kept together. -/
theorem head?_lowerFrom (h : IsKept d) : (lowerFrom before s).head? = some d ↔ s.head? = some d := by
  cases s with
  | nil => rfl
  | cons c s =>
    rw [lowerFrom_cons, List.head?_append_of_ne_nil _ lowerAt_ne_nil, List.head?_cons]
    constructor
    · intro hd
      rw [eq_of_mem_lowerAt (List.mem_of_mem_head? hd) h]
    · intro hd
      obtain rfl : c = d := Option.some.inj hd
      rw [lowerAt_of_isLowered h.isLowered]
      rfl

theorem getLast?_lowerFrom (h : IsKept d) :
    (lowerFrom before s).getLast? = some d ↔ s.getLast? = some d := by
  induction s generalizing before with
  | nil => rfl
  | cons c s ih =>
    rw [lowerFrom_cons]
    by_cases hs : s = []
    · subst hs
      rw [lowerFrom, List.append_nil, List.getLast?_singleton]
      constructor
      · intro hd
        rw [eq_of_mem_lowerAt (List.mem_of_mem_getLast? hd) h]
      · intro hd
        obtain rfl : c = d := Option.some.inj hd
        rw [lowerAt_of_isLowered h.isLowered]
        rfl
    · have hne : lowerFrom (c :: before) s ≠ [] := fun he => hs (lowerFrom_eq_nil.1 he)
      rw [List.getLast?_append_of_ne_nil _ hne, ih]
      show _ ↔ ([c] ++ s).getLast? = some d
      rw [List.getLast?_append_of_ne_nil _ hs]

theorem blank_head_lower :
    (∀ c ∈ (lower s).head?, isBlank c = false) ↔ ∀ c ∈ s.head?, isBlank c = false := by
  refine forall_congr' fun c => ?_
  cases hc : isBlank c with
  | false => simp
  | true =>
    have hhead : c ∈ (lower s).head? ↔ c ∈ s.head? := head?_lowerFrom (.of_isBlank hc)
    rw [hhead]

theorem blank_end_lower :
    (∀ c ∈ (lower s).getLast?, isBlank c = false) ↔ ∀ c ∈ s.getLast?, isBlank c = false := by
  refine forall_congr' fun c => ?_
  cases hc : isBlank c with
  | false => simp
  | true =>
    have hlast : c ∈ (lower s).getLast? ↔ c ∈ s.getLast? := getLast?_lowerFrom (.of_isBlank hc)
    rw [hlast]

theorem isTrimmed_lower : IsTrimmed (lower s) ↔ IsTrimmed s :=
  and_congr blank_head_lower blank_end_lower

/-- Lower case changes no prefix of signs, and makes none. -/
theorem isPrefix_lowerFrom (hp : ∀ c ∈ p, IsSign c) :
    p <+: lowerFrom before s ↔ p <+: s := by
  induction p generalizing s before with
  | nil => simp
  | cons m p ih =>
    obtain ⟨hm, hp'⟩ := List.forall_mem_cons.1 hp
    have hkept := IsKept.of_isSign hm
    cases s with
    | nil => rfl
    | cons c s =>
      by_cases hc : c = m
      · subst hc
        rw [lowerFrom_cons, lowerAt_of_isLowered hkept.isLowered, List.singleton_append,
          List.prefix_cons_inj, List.prefix_cons_inj, ih hp']
      · constructor
        · intro h
          have hhead : (lowerFrom before (c :: s)).head? = some m := by
            obtain ⟨t, ht⟩ := h
            rw [← ht]
            rfl
          exact absurd (Option.some.inj ((head?_lowerFrom hkept).1 hhead)) hc
        · intro h
          exact absurd (List.cons_prefix_cons.1 h).1.symm hc

end RuleSets.Text
