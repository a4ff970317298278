import RuleSets.Proofs.Source.Domain
import RuleSets.Proofs.Source.FirstLine

/-!
# Names in the lines of a domain list

What a domain list stores is the name that a line gives, behind its marks and in lower case.
Nothing that is not part of a name gets in on the way (`domain_lists_hold_names`).  The lines may be
rule lines, as those of a clash source, and then both store the same rule, with one exception: a
plus sign that is no part of a suffix mark is dropped from a domain list and kept in a clash source
(`domain_list_agrees_with_clash`).
-/

namespace RuleSets

variable {s l v : Text} {k : Kind} {r : Rule}

/-! ### What is stored -/

namespace Extract

theorem nameOfLine_suffix (l : Text) : nameOfLine l <:+ l := by
  have hplus : withoutPlus l <:+ l := by
    rcases eq_or_eq_cons_withoutPlus l with hl | hl
    · exact hl ▸ List.suffix_refl _
    · exact ⟨['+'], hl.symm⟩
  exact (Rule.stripDots_suffix _).trans hplus

theorem mem_extract_names : r ∈ extract .domainText s ↔ ∃ l ∈ Text.contentLines s,
    ∃ k v, domainOfLine? (Text.cleanItem l) = some (k, v) ∧
      (isBareDomain v = true ∧ nameOfLine v ≠ []) ∧ ⟨k, Text.lower (nameOfLine v)⟩ = r := by
  rw [extract, extractDocument, rawRules, domainText, Bucket.mem_ofRaw_lines]
  simp only [ruleOfLine?_domainRule?_eq_some]

end Extract

/-- What a domain list stores are names: they are not empty, begin with no period and hold no white
space, comma, slash or colon. -/
theorem domain_lists_hold_names (s : Text) : ∀ r ∈ extract .domainText s,
    (r.kind = .domain ∨ r.kind = .domainSuffix) ∧ r.value ≠ [] ∧ ¬ ['.'] <+: r.value ∧
      ∀ c ∈ r.value, Text.isBlank c = false ∧ c ≠ ',' ∧ c ≠ '/' ∧ c ≠ ':' := by
  intro r hr
  obtain ⟨l, -, k, v, hl, ⟨hbare, hne⟩, rfl⟩ := Extract.mem_extract_names.1 hr
  obtain ⟨hk, hcomma⟩ := Extract.domainOfLine?_eq_some hl
  have hchars := (Extract.isBareDomain_iff.1 hbare).2
  -- Lower case makes none of these characters, so that they would be in the line itself.
  have hmem {c : Char} (hc : c ∈ Text.lower (Extract.nameOfLine v)) (hkept : Text.IsKept c) :
      c ∈ v := (Extract.nameOfLine_suffix v).mem (Text.mem_of_mem_lower hc hkept)
  refine ⟨?_, fun he => hne (Text.lower_eq_nil.1 he), ?_, fun c hc => ⟨?_, ?_, ?_, ?_⟩⟩
  · cases k with
    | domain => exact .inl rfl
    | domainSuffix => exact .inr rfl
    | _ => cases hk
  · exact fun hperiod => Rule.no_period_stripDots _ (Rule.period_prefix_lower.1 hperiod)
  · rw [← Bool.not_eq_true]
    intro hblank
    rw [(hchars c (hmem hc (.of_isBlank hblank))).1] at hblank
    cases hblank
  · rintro rfl
    exact hcomma (hmem hc (by decide))
  · rintro rfl
    exact (hchars _ (hmem hc (by decide))).2.1 rfl
  · rintro rfl
    exact (hchars _ (hmem hc (by decide))).2.2 rfl

/-- Marks, a capital that becomes two characters, and a rule line with a policy. -/
theorem marked_capitals_are_names :
    let s := "+..\u0130.Com\nDOMAIN,+a.com:443\n- 'DOMAIN,++.B.com,PROXY'".toList
    ∀ r ∈ [Rule.mk .domainSuffix "i\u0307.com".toList, ⟨.domain, "b.com".toList⟩],
      r ∈ extract .domainText s ∧ (r.kind = .domain ∨ r.kind = .domainSuffix) ∧ r.value ≠ [] ∧
        ¬ ['.'] <+: r.value ∧
        ∀ c ∈ r.value, Text.isBlank c = false ∧ c ≠ ',' ∧ c ≠ '/' ∧ c ≠ ':' := by
  intro s r hr
  have hmem : r ∈ extract .domainText s := by
    revert hr
    revert r
    decide +kernel
  exact ⟨hmem, domain_lists_hold_names s r hmem⟩

/-! ### Plus signs -/

namespace Extract

theorem stripDots_of_mark (h : ['.'] <+: v) : Rule.stripDots ('+' :: v) = Rule.stripDots v := by
  obtain ⟨t, rfl⟩ := h
  simp [Rule.stripDots, Text.afterPrefix?]

theorem stripDots_of_plus (h : ¬ ['.'] <+: v) : Rule.stripDots ('+' :: v) = '+' :: v := by
  refine Rule.stripDots_eq_self_iff.2 ⟨fun hperiod => ?_, fun hmark => ?_⟩
  · exact absurd (List.cons_prefix_cons.1 hperiod).1 (by decide)
  · exact h (List.cons_prefix_cons.1 hmark).2

theorem nameOfLine_cases (v : Text) : nameOfLine v = Rule.stripDots v ∨
    ∃ w, v = '+' :: w ∧ ¬ ['.'] <+: w ∧ nameOfLine v = Rule.stripDots w := by
  rw [nameOfLine]
  rcases eq_or_eq_cons_withoutPlus v with hv | hv
  · exact .inl (congrArg Rule.stripDots hv.symm)
  · by_cases hperiod : ['.'] <+: withoutPlus v
    · left
      rw [← stripDots_of_mark hperiod, ← hv]
    · exact .inr ⟨withoutPlus v, hv, hperiod, rfl⟩

/-- The rule that a line for a name makes in a clash source. -/
theorem ruleOfLine?_splitRule? (h : Kind.splitRule? l = some (k, v)) (hk : k.isDomainName = true)
    (hne : Rule.stripDots v ≠ []) :
    ruleOfLine? Kind.splitRule? l = some ⟨k, Text.lower (Rule.stripDots v)⟩ := by
  rw [ruleOfLine?, h, Option.bind_some, Rule.parse?_name hk, (Kind.splitRule?_eq_some h).1,
    if_neg hne]

/-- Whether a rule is that of a line whose value begins with a plus sign and no period behind it,
and as such has lost the sign, which the rule of the same line in a clash source has. -/
def LosesPlus (s : Text) (r : Rule) : Prop := ∃ l ∈ Text.contentLines s, ∃ v,
  Kind.splitRule? (Text.cleanItem l) = some (r.kind, '+' :: v) ∧ ¬ ['.'] <+: v ∧
  r.value = Text.lower (Rule.stripDots v) ∧ r.value ≠ Text.lower ('+' :: v) ∧
  ⟨r.kind, Text.lower ('+' :: v)⟩ ∈ extract .clash s

end Extract

/-- From rule lines a domain list stores what a clash source with the same lines stores, except that
it drops a plus sign that is no part of a suffix mark. -/
theorem domain_list_agrees_with_clash (hdoc : Document.parse s = .text)
    (hcomma : ∀ l ∈ Text.contentLines s, ',' ∈ Text.cleanItem l) :
    ∀ r ∈ extract .domainText s, r ∈ extract .clash s ∨ Extract.LosesPlus s r := by
  intro r hr
  obtain ⟨l, hl, k, v, hline, ⟨-, hne⟩, rfl⟩ := Extract.mem_extract_names.1 hr
  rw [Extract.domainOfLine?_of_comma (hcomma l hl), Option.filter_eq_some_iff] at hline
  obtain ⟨hsplit, hk⟩ := hline
  have hclash (hne : Rule.stripDots v ≠ []) :
      ⟨k, Text.lower (Rule.stripDots v)⟩ ∈ extract .clash s :=
    (Extract.mem_extract_clash_of_text hdoc).2 ⟨l, hl, Extract.ruleOfLine?_splitRule? hsplit hk hne⟩
  rcases Extract.nameOfLine_cases v with hname | ⟨w, rfl, hperiod, hname⟩
  · rw [hname] at hne ⊢
    exact .inl (hclash hne)
  · -- With no period behind it the sign is no suffix mark, so that the rule from clash has it.
    rw [Extract.stripDots_of_plus hperiod] at hclash
    rw [hname]
    exact .inr ⟨l, hl, w, hsplit, hperiod, rfl,
      Text.lower_ne_of_suffix (Rule.stripDots_suffix w), hclash (List.cons_ne_nil '+' w)⟩

/-- The sign before the name is dropped from a domain list only. -/
theorem plus_sign_is_dropped :
    let s := "DOMAIN,+a.com".toList
    Document.parse s = .text ∧ (∀ l ∈ Text.contentLines s, ',' ∈ Text.cleanItem l) ∧
      ⟨.domain, "a.com".toList⟩ ∈ extract .domainText s ∧
      ⟨.domain, "a.com".toList⟩ ∉ extract .clash s :=
  ⟨Document.eq_text (by decide +kernel), by decide, by decide +kernel, by decide +kernel⟩

/-- A suffix mark, a keyword in small letters and two plus signs. -/
theorem suffix_marks_agree :
    let s := "domain-suffix , +..B.com,PROXY\nDOMAIN,++.a.com".toList
    Document.parse s = .text ∧ (∀ l ∈ Text.contentLines s, ',' ∈ Text.cleanItem l) ∧
      ∀ r ∈ [Rule.mk .domainSuffix "b.com".toList, ⟨.domain, "a.com".toList⟩],
        r ∈ extract .domainText s ∧ (r ∈ extract .clash s ∨ Extract.LosesPlus s r) := by
  intro s
  have hdoc : Document.parse s = .text := Document.eq_text (by decide +kernel)
  have hcomma : ∀ l ∈ Text.contentLines s, ',' ∈ Text.cleanItem l := by decide
  refine ⟨hdoc, hcomma, fun r hr => ?_⟩
  have hmem : r ∈ extract .domainText s := by
    revert hr
    revert r
    decide +kernel
  exact ⟨hmem, domain_list_agrees_with_clash hdoc hcomma r hmem⟩

end RuleSets
