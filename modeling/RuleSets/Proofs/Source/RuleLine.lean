import RuleSets.Proofs.Text.Line
import RuleSets.Source.Format

/-!
# The grammar of rule lines

A rule line is a type, white space, a comma, and a value that ends at the second comma or with the
line (`splitRule?_eq_some_iff`).  So it is told by its first two fields alone, and what stands behind
them, such as a policy, does not matter (`rule_lines_split_at_commas`).
-/

namespace RuleSets

namespace Text

variable {s t l v : Text}

/-! ### Fields -/

/-- What stands before the first comma of a text, or all of it. -/
def beforeComma (s : Text) : Text := s.takeWhile (· != ',')

/-- What stands behind the first comma of a text. -/
def afterComma (s : Text) : Text := (s.dropWhile (· != ',')).drop 1

theorem beforeComma_append (s t : Text) : beforeComma (s ++ ',' :: t) = beforeComma s := by
  induction s with
  | nil => rfl
  | cons c s ih =>
    simp only [beforeComma, List.cons_append, List.takeWhile_cons] at ih ⊢
    rw [ih]

section
variable (hs : ',' ∉ s)
include hs

theorem ne_comma : ∀ c ∈ s, (c != ',') = true :=
  fun _ hc => bne_iff_ne.2 fun he => hs (he ▸ hc)

theorem beforeComma_eq_self : beforeComma s = s := List.takeWhile_eq_self_iff.2 (ne_comma hs)

theorem afterComma_append (t : Text) : afterComma (s ++ ',' :: t) = t := by
  rw [afterComma, List.dropWhile_append_of_pos (ne_comma hs)]
  rfl

end

/-! ### Types -/

/-- Whether a text is the type of a rule line: an ASCII letter and, behind it, ASCII letters, digits
and hyphens. -/
def IsRuleType : Text → Prop
  | [] => False
  | c :: name => c.isAlpha = true ∧ ∀ d ∈ name, isTypeChar d = true

instance : DecidablePred IsRuleType
  | [] => inferInstanceAs (Decidable False)
  | c :: name => decidable_of_iff (c.isAlpha = true ∧ name.all isTypeChar = true)
      (and_congr_right' List.all_eq_true)

theorem IsRuleType.isTypeChar (h : IsRuleType t) : ∀ c ∈ t, Text.isTypeChar c = true := by
  cases t with
  | nil => exact h.elim
  | cons c name =>
    have hc : Text.isTypeChar c = true := by simp [Text.isTypeChar, Char.isAlphanum, h.1]
    exact List.forall_mem_cons.2 ⟨hc, h.2⟩

theorem isBlank_of_isTypeChar {c : Char} (h : isTypeChar c = true) : isBlank c = false := by
  have of_range {m n : Nat} (h : m ≤ c.toNat ∧ c.toNat ≤ n) (hm : 0x20 < m) (hn : n < 0x85) :
      isBlank c = false := isBlank_of_toNat ⟨hm.trans_le h.1, h.2.trans_lt hn⟩
  change (decide (c.val ≥ 'A'.val ∧ c.val ≤ 'Z'.val) || (c.val ≥ 'a'.val && c.val ≤ 'z'.val) ||
    (c.val ≥ '0'.val && c.val ≤ '9'.val) || c == '-') = true at h
  simp only [Bool.or_eq_true, Bool.and_eq_true, decide_eq_true_eq, beq_iff_eq,
    UInt32.le_iff_toNat_le] at h
  rcases h with ((hupper | hlower) | hdigit) | rfl
  · exact of_range hupper (by decide) (by decide)
  · exact of_range hlower (by decide) (by decide)
  · exact of_range hdigit (by decide) (by decide)
  · decide

theorem IsRuleType.not_blank (h : IsRuleType t) : ∀ c ∈ t, isBlank c = false :=
  fun c hc => isBlank_of_isTypeChar (h.isTypeChar c hc)

theorem IsRuleType.trimEnd_eq (h : IsRuleType t) : trimEnd t = t :=
  trimEnd_eq_self_iff.2 fun c hc => h.not_blank c (List.mem_of_getLast? hc)

/-! ### Rule lines -/

/-- A rule line is a type, white space, a comma and the value with what follows it. -/
theorem splitRule?_eq_some_iff : splitRule? l = some (t, v) ↔ ∃ q rest,
    l = t ++ (q ++ ',' :: rest) ∧ IsRuleType t ∧ (∀ c ∈ q, isBlank c = true) ∧
      trim (beforeComma rest) = v := by
  constructor
  · intro h
    unfold splitRule? at h
    split at h
    · rename_i c name rest hname hrest
      obtain ⟨hc, h⟩ := Option.ite_none_right_eq_some.1 h
      obtain ⟨rfl, rfl⟩ := Prod.mk.inj (Option.some.inj h)
      have htype (d : Char) (hd : d ∈ c :: name) : isTypeChar d = true := by
        rw [← hname] at hd
        exact List.mem_takeWhile_imp hd
      refine ⟨(l.dropWhile isTypeChar).takeWhile isBlank, rest, ?_,
        ⟨hc, fun d hd => htype d (List.mem_cons_of_mem c hd)⟩,
        fun d hd => List.mem_takeWhile_imp hd, rfl⟩
      rw [← hrest, ← hname, List.takeWhile_append_dropWhile, List.takeWhile_append_dropWhile]
    · cases h
  · rintro ⟨q, rest, rfl, ht, hq, rfl⟩
    -- Neither white space nor a comma goes on with the type.
    have hends : ∀ c ∈ (q ++ ',' :: rest).head?, isTypeChar c = false := by
      cases q with
      | nil =>
        rintro c ⟨⟩
        rfl
      | cons d q =>
        rintro c ⟨⟩
        rw [← Bool.not_eq_true]
        intro hc
        have hblank := hq d (List.mem_cons_self ..)
        rw [isBlank_of_isTypeChar hc] at hblank
        cases hblank
    have hgap : (q ++ ',' :: rest).dropWhile isBlank = ',' :: rest :=
      dropWhile_append_of_head hq (by rintro c ⟨⟩; rfl)
    rw [splitRule?, takeWhile_append_of_head ht.isTypeChar hends,
      dropWhile_append_of_head ht.isTypeChar hends, hgap]
    cases t with
    | nil => exact ht.elim
    | cons c name => exact if_pos ht.1

theorem splitRule?_eq_some (h : splitRule? l = some (t, v)) :
    trim t = t ∧ trim v = v ∧ ',' ∉ v := by
  obtain ⟨q, rest, -, ht, -, rfl⟩ := splitRule?_eq_some_iff.1 h
  refine ⟨trim_eq_self ht.not_blank, trim_trim _, fun hcomma => ?_⟩
  exact absurd (List.mem_takeWhile_imp (mem_of_mem_trim hcomma)) (by decide)

theorem splitRule?_of_no_comma (h : ',' ∉ l) : splitRule? l = none := by
  refine Option.eq_none_iff_forall_ne_some.2 fun ⟨t, v⟩ hl => ?_
  obtain ⟨q, rest, rfl, -⟩ := splitRule?_eq_some_iff.1 hl
  exact h (by simp)

theorem splitRule?_of_not_isContent (h : isContent l = false) : splitRule? l = none := by
  cases l with
  | nil => rfl
  | cons c l =>
    obtain rfl : c = '#' := by simpa [isContent] using h
    rfl

/-- The type of a rule line is its first field and the value is its second, without the white
space around them. -/
theorem splitRule?_eq_some_iff_fields : splitRule? l = some (t, v) ↔
    ',' ∈ l ∧ IsRuleType (trimEnd (beforeComma l)) ∧ trimEnd (beforeComma l) = t ∧
      trim (beforeComma (afterComma l)) = v := by
  rw [splitRule?_eq_some_iff]
  constructor
  · rintro ⟨q, rest, rfl, ht, hq, rfl⟩
    have hcomma : ',' ∉ t ++ q := by
      rw [List.mem_append]
      rintro (h | h)
      · exact absurd (ht.isTypeChar _ h) (by decide)
      · exact absurd (hq _ h) (by decide)
    rw [← List.append_assoc, beforeComma_append, beforeComma_eq_self hcomma,
      afterComma_append hcomma, trimEnd_append hq, ht.trimEnd_eq]
    exact ⟨by simp, ht, rfl, rfl⟩
  · rintro ⟨hmem, ht, rfl, rfl⟩
    obtain ⟨f, rest, rfl, hf⟩ := List.eq_append_cons_of_mem hmem
    rw [beforeComma_append, beforeComma_eq_self hf] at ht ⊢
    rw [afterComma_append hf]
    obtain ⟨q, hfq, hq⟩ := exists_eq_trimEnd_append f
    exact ⟨q, rest, by rw [← List.append_assoc, ← hfq], ht, hq, rfl⟩

theorem splitRule?_eq (l : Text) : splitRule? l =
    if ',' ∈ l ∧ IsRuleType (trimEnd (beforeComma l)) then
      some (trimEnd (beforeComma l), trim (beforeComma (afterComma l)))
    else none := by
  split_ifs with h
  · exact splitRule?_eq_some_iff_fields.2 ⟨h.1, h.2, rfl, rfl⟩
  · refine Option.eq_none_iff_forall_ne_some.2 fun ⟨t, v⟩ hl => ?_
    obtain ⟨hcomma, ht, -, -⟩ := splitRule?_eq_some_iff_fields.1 hl
    exact h ⟨hcomma, ht⟩

/-- A third field and all behind it are not looked at. -/
theorem splitRule?_append (h : ',' ∈ l) (s : Text) : splitRule? (l ++ ',' :: s) = splitRule? l := by
  obtain ⟨f, rest, rfl, hf⟩ := List.eq_append_cons_of_mem h
  have hafter : beforeComma (afterComma ((f ++ ',' :: rest) ++ ',' :: s)) =
      beforeComma (afterComma (f ++ ',' :: rest)) := by
    rw [List.append_assoc, List.cons_append, afterComma_append hf, afterComma_append hf,
      beforeComma_append]
  have hmem : ',' ∈ (f ++ ',' :: rest) ++ ',' :: s := List.mem_append_left _ h
  rw [splitRule?_eq, splitRule?_eq, hafter, beforeComma_append (f ++ ',' :: rest)]
  simp only [h, hmem]

end Text

/-- A line is a rule line just when it has a comma and the text before the first one is a type, with
white space behind it or without; the value is the text from there to the second comma or the end,
without the white space around it.  So nothing that is added behind a comma makes a rule line of
another line, or another rule line. -/
theorem rule_lines_split_at_commas (l : Text) :
    (Text.splitRule? l =
      if ',' ∈ l ∧ Text.IsRuleType (Text.trimEnd (Text.beforeComma l)) then
        some (Text.trimEnd (Text.beforeComma l), Text.trim (Text.beforeComma (Text.afterComma l)))
      else none) ∧
    (',' ∈ l → ∀ s, Text.splitRule? (l ++ ',' :: s) = Text.splitRule? l ∧
      Kind.splitRule? (l ++ ',' :: s) = Kind.splitRule? l) := by
  refine ⟨Text.splitRule?_eq l, fun h s => ?_⟩
  have hsplit : Text.splitRule? (l ++ ',' :: s) = Text.splitRule? l := Text.splitRule?_append h s
  refine ⟨hsplit, ?_⟩
  rw [Kind.splitRule?, hsplit, Kind.splitRule?]

/-- White space of many sorts around the comma, a line break in the value, and a policy. -/
theorem policies_are_not_read :
    let l := "Domain-suffix\u3000\n,\u00a0a.com\u2028\nb\t".toList
    ',' ∈ l ∧ Text.splitRule? l = some ("Domain-suffix".toList, "a.com\u2028\nb".toList) ∧
      Kind.splitRule? (l ++ ',' :: "PROXY, no-resolve".toList) =
        some (.domainSuffix, "a.com\u2028\nb".toList) := by
  intro l
  have hcomma : ',' ∈ l := by decide
  obtain ⟨hsplit, hpolicy⟩ := rule_lines_split_at_commas l
  refine ⟨hcomma, ?_, ?_⟩
  · rw [hsplit]
    decide
  · rw [(hpolicy hcomma _).2]
    decide

end RuleSets
