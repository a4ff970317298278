import RuleSets.Proofs.Rule.Canonical
import RuleSets.Proofs.Source.Detect
import RuleSets.Proofs.Source.RuleLine

/-!
# Domain lists that are recognised

A text is recognised as a domain list by how many of its first lines look like domain names.  That a
line looks like one does not mean that it is read: a colon is no part of a name, and a line of nothing
but periods and marks has no name.  Every other line that looks like a domain name is read as a suffix
(`recognised_domains_are_read`), so that a list is only lost if all lines that were counted are of
those kinds.  Lines of other looks may be rule lines, of which those for names are read too
(`ruleOfLine?_domainRule?_eq_some`).
-/

namespace RuleSets

variable {s l v : Text} {k : Kind} {r : Rule}

/-! ### Recognition -/

namespace Format

theorem looksLikeDomain_iff : looksLikeDomain l = true ↔
    '.' ∈ l ∧ ∀ c ∈ l, Text.isBlank c = false ∧ c ≠ ',' ∧ c ≠ '/' := by
  simp [looksLikeDomain, and_assoc]

theorem not_looksLikeNetwork (h : looksLikeDomain l = true) : looksLikeNetwork l = false := by
  have hslash : '/' ∉ l := fun hmem => ((looksLikeDomain_iff.1 h).2 _ hmem).2.2 rfl
  simp [looksLikeNetwork, hslash]

/-- A line that looks like a domain name is counted as one. -/
theorem ofSample_eq_domainText_iff {lines : List Text} : ofSample lines = domainText ↔
    isShare (lines.countP looksLikeNetwork) lines.length = false ∧
      isShare (lines.countP looksLikeDomain) lines.length = true := by
  have hcount : lines.countP (fun l => !looksLikeNetwork l && looksLikeDomain l) =
      lines.countP looksLikeDomain := by
    refine List.countP_congr fun l _ => ?_
    simp only [Bool.and_eq_true, Bool.not_eq_true', and_iff_right_iff_imp]
    exact not_looksLikeNetwork
  unfold ofSample
  rw [hcount]
  dsimp only
  split
  · rename_i hnetworks
    simp [hnetworks]
  · rename_i hnetworks
    split
    · rename_i hdomains
      simp [hnetworks, hdomains]
    · rename_i hdomains
      simp [hdomains]

end Format

/-! ### Rule lines -/

namespace Kind

theorem ofKeyword?_eq_some_iff (hs : Text.trim s = s) : ofKeyword? s = some k ↔
    k ∈ extracted ∧ Text.eqIgnoringAsciiCase s k.keyword = true := by
  rw [ofKeyword?, hs]
  constructor
  · intro h
    have hsame := List.find?_some h
    rw [Text.eqIgnoringAsciiCase, beq_iff_eq] at hsame ⊢
    exact ⟨List.mem_of_find?_eq_some h, hsame.symm⟩
  · rintro ⟨hk, h⟩
    -- No two keywords differ in case only, so the first one that fits is that of the kind.
    rw [Text.eqIgnoringAsciiCase, beq_iff_eq] at h
    simp only [Text.eqIgnoringAsciiCase, h]
    revert hk
    cases k <;> decide

theorem splitRule?_eq_some (h : splitRule? l = some (k, v)) : Text.trim v = v ∧ ',' ∉ v := by
  unfold splitRule? at h
  split at h
  · rename_i keyword w hl
    obtain ⟨j, -, hraw⟩ := Option.map_eq_some_iff.1 h
    obtain ⟨-, rfl⟩ := Prod.mk.inj hraw
    exact (Text.splitRule?_eq_some hl).2
  · cases h

end Kind

namespace Extract

/-- Of the rule lines, a domain list takes those for names of domains. -/
theorem domainOfLine?_of_comma (h : ',' ∈ l) :
    domainOfLine? l = (Kind.splitRule? l).filter fun raw => raw.1.isDomainName := by
  rw [domainOfLine?, if_pos (List.contains_iff_mem.2 h), Kind.splitRule?]
  cases hl : Text.splitRule? l with
  | none => rfl
  | some raw =>
    obtain ⟨keyword, v⟩ := raw
    have hkeyword (k : Kind) := Kind.ofKeyword?_eq_some_iff (k := k) (Text.splitRule?_eq_some hl).1
    dsimp only
    -- The comparisons with the two types are those that tell the kind of a rule line.
    split_ifs with hdomain hsuffix
    · rw [(hkeyword .domain).2 ⟨by decide, hdomain⟩]
      rfl
    · rw [(hkeyword .domainSuffix).2 ⟨by decide, hsuffix⟩]
      rfl
    · cases hk : Kind.ofKeyword? keyword with
      | none => rfl
      | some k =>
        obtain ⟨-, hname⟩ := (hkeyword k).1 hk
        cases k with
        | domain => exact absurd hname hdomain
        | domainSuffix => exact absurd hname hsuffix
        | _ => rfl

theorem domainOfLine?_of_no_comma (h : ',' ∉ l) : domainOfLine? l = some (.domainSuffix, l) := by
  rw [domainOfLine?, if_neg (mt List.contains_iff_mem.1 h)]

theorem domainOfLine?_eq_some (h : domainOfLine? l = some (k, v)) :
    k.isDomainName = true ∧ ',' ∉ v := by
  by_cases hcomma : ',' ∈ l
  · rw [domainOfLine?_of_comma hcomma, Option.filter_eq_some_iff] at h
    exact ⟨h.2, (Kind.splitRule?_eq_some h.1).2⟩
  · rw [domainOfLine?_of_no_comma hcomma] at h
    obtain ⟨rfl, rfl⟩ := Prod.mk.inj (Option.some.inj h)
    exact ⟨rfl, hcomma⟩

/-! ### Names -/

/-- A line without the plus sign before it. -/
def withoutPlus (l : Text) : Text := (Text.afterPrefix? ['+'] l).getD l

/-- What stands behind the marks of a line: one plus sign, one suffix mark, and periods. -/
def nameOfLine (l : Text) : Text := Rule.stripDots (withoutPlus l)

theorem eq_or_eq_cons_withoutPlus (l : Text) : l = withoutPlus l ∨ l = '+' :: withoutPlus l := by
  rw [withoutPlus, Text.afterPrefix?]
  split
  · rename_i hprefix
    obtain ⟨q, rfl⟩ := List.isPrefixOf_iff_prefix.1 hprefix
    exact .inr rfl
  · exact .inl rfl

theorem isBareDomain_iff : isBareDomain s = true ↔
    '.' ∈ s ∧ ∀ c ∈ s, Text.isBlank c = false ∧ c ≠ '/' ∧ c ≠ ':' := by
  simp [isBareDomain, and_assoc]

theorem isBareDomain_withoutPlus (l : Text) : isBareDomain (withoutPlus l) = isBareDomain l := by
  have hplus : Text.isBlank '+' = false := by decide
  rw [Bool.eq_iff_iff, isBareDomain_iff, isBareDomain_iff]
  rcases eq_or_eq_cons_withoutPlus l with hl | hl
  · rw [← hl]
  · generalize withoutPlus l = q at hl ⊢
    simp [hl, hplus]

theorem trim_of_isBareDomain (h : isBareDomain s = true) : Text.trim s = s :=
  Text.trim_eq_self fun c hc => ((isBareDomain_iff.1 h).2 c hc).1

/-- A line makes the rule of what it names, if that is a bare domain name and not nothing but
marks. -/
theorem ruleOfLine?_of_domainOfLine? (h : domainOfLine? l = some (k, v)) :
    ruleOfLine? domainRule? l = if isBareDomain v = true ∧ nameOfLine v ≠ [] then
      some ⟨k, Text.lower (nameOfLine v)⟩ else none := by
  have hrule : domainRule? l =
      if isBareDomain (withoutPlus v) = true then some (k, withoutPlus v) else none := by
    rw [domainRule?, h]
    rfl
  rw [ruleOfLine?, hrule, isBareDomain_withoutPlus]
  by_cases hbare : isBareDomain v = true
  · have htrim := trim_of_isBareDomain ((isBareDomain_withoutPlus v).trans hbare)
    rw [if_pos hbare, Option.bind_some, Rule.parse?_name (domainOfLine?_eq_some h).1, htrim]
    simp only [hbare, true_and, ite_not, nameOfLine]
  · rw [if_neg hbare, if_neg fun hand => hbare hand.1]
    rfl

theorem ruleOfLine?_domainRule?_eq_some : ruleOfLine? domainRule? l = some r ↔
    ∃ k v, domainOfLine? l = some (k, v) ∧ (isBareDomain v = true ∧ nameOfLine v ≠ []) ∧
      ⟨k, Text.lower (nameOfLine v)⟩ = r := by
  constructor
  · intro h
    cases hl : domainOfLine? l with
    | none =>
      rw [ruleOfLine?, domainRule?, hl] at h
      cases h
    | some raw =>
      rw [ruleOfLine?_of_domainOfLine? hl] at h
      obtain ⟨hname, hr⟩ := Option.ite_none_right_eq_some.1 h
      exact ⟨raw.1, raw.2, rfl, hname, Option.some.inj hr⟩
  · rintro ⟨k, v, hl, hname, rfl⟩
    rw [ruleOfLine?_of_domainOfLine? hl, if_pos hname]

/-- A line that is no rule line is read as a suffix, if it is a bare domain name and not nothing but
marks. -/
theorem ruleOfLine?_of_no_comma (h : ',' ∉ l) : ruleOfLine? domainRule? l =
    if isBareDomain l = true ∧ nameOfLine l ≠ [] then
      some ⟨.domainSuffix, Text.lower (nameOfLine l)⟩ else none :=
  ruleOfLine?_of_domainOfLine? (domainOfLine?_of_no_comma h)

theorem isBareDomain_of_looksLikeDomain (h : Format.looksLikeDomain l = true) :
    isBareDomain l = true ↔ ':' ∉ l := by
  obtain ⟨hperiod, hchars⟩ := Format.looksLikeDomain_iff.1 h
  rw [isBareDomain_iff]
  constructor
  · rintro ⟨-, hname⟩ hcolon
    exact (hname _ hcolon).2.2 rfl
  · exact fun hcolon => ⟨hperiod, fun c hc =>
      ⟨(hchars c hc).1, (hchars c hc).2.2, fun he => hcolon (he ▸ hc)⟩⟩

/-- A line that looks like a domain name is read as a suffix, unless it has a colon or no name. -/
theorem ruleOfLine?_of_looksLikeDomain (h : Format.looksLikeDomain l = true) :
    ruleOfLine? domainRule? l = if ':' ∈ l ∨ nameOfLine l = [] then none
      else some ⟨.domainSuffix, Text.lower (nameOfLine l)⟩ := by
  have hcomma : ',' ∉ l := fun hmem => ((Format.looksLikeDomain_iff.1 h).2 _ hmem).2.1 rfl
  simp only [ruleOfLine?_of_no_comma hcomma, isBareDomain_of_looksLikeDomain h, ne_eq, ← not_or,
    ite_not]

end Extract

/-- A text that is recognised as a domain list has its domains read.  At least three of its first
fifty lines look like domain names and at least sixty in a hundred.  What is read is what its lines make,
one by one, and a line that looks like a domain name makes the suffix of its name, in lower case, unless
it has a colon or nothing but marks.  So something is read if one of the lines that were counted is of
neither kind. -/
theorem recognised_domains_are_read {s : Text} (h : Format.detect .auto s = .domainText) :
    let sample := (Format.cleanLines s).take 50
    let hits := sample.countP Format.looksLikeDomain
    (3 ≤ hits ∧ 60 * sample.length ≤ 100 * hits) ∧
    (∀ r, r ∈ extract .domainText s ↔
      ∃ l ∈ Text.contentLines s, Extract.ruleOfLine? Extract.domainRule? (Text.cleanItem l) = some r) ∧
    (∀ l, Format.looksLikeDomain l = true → Extract.ruleOfLine? Extract.domainRule? l =
      if ':' ∈ l ∨ Extract.nameOfLine l = [] then none
      else some ⟨.domainSuffix, Text.lower (Extract.nameOfLine l)⟩) ∧
    ((∃ l ∈ sample, Format.looksLikeDomain l = true ∧ ':' ∉ l ∧ Extract.nameOfLine l ≠ []) →
      (extract .domainText s).isEmpty = false) := by
  intro sample hits
  have hsample := ((Format.ofDocument_eq_iff (f := .domainText) nofun nofun).1 h).2.2
  have hshare := Format.isShare_iff.1 (Format.ofSample_eq_domainText_iff.1 hsample).2
  refine ⟨hshare, fun r => Bucket.mem_ofRaw_lines,
    fun l => Extract.ruleOfLine?_of_looksLikeDomain, ?_⟩
  rintro ⟨_, hmem, hlooks, hcolon, hname⟩
  obtain ⟨l, hl, rfl⟩ := Format.exists_line_of_mem_sample hmem
  have hrule := Extract.ruleOfLine?_of_looksLikeDomain hlooks
  rw [if_neg (not_or.2 ⟨hcolon, hname⟩)] at hrule
  exact Bucket.isEmpty_eq_false (Bucket.mem_ofRaw_lines.2 ⟨l, hl, hrule⟩)

/-- Names with ports are counted, and none is read. -/
theorem ports_are_recognised_and_lost :
    let s := "a.com:443\nb.com:443\nc.com:443".toList
    Format.detect .auto s = .domainText ∧ (extract .domainText s).isEmpty = true :=
  ⟨by decide +kernel, by decide⟩

/-- Marks and capitals, between a name with a port and a line of marks only. -/
theorem marked_domains_are_read :
    let s := "a.com:443\n+.B.com\n+..\n'.c.com'".toList
    Format.detect .auto s = .domainText ∧
    (∀ r, r ∈ extract .domainText s ↔
      ∃ l ∈ Text.contentLines s, Extract.ruleOfLine? Extract.domainRule? (Text.cleanItem l) = some r) ∧
    Extract.ruleOfLine? Extract.domainRule? "+.B.com".toList = some ⟨.domainSuffix, "b.com".toList⟩ ∧
    (extract .domainText s).isEmpty = false := by
  intro s
  have hdetect : Format.detect .auto s = .domainText := by decide +kernel
  obtain ⟨-, hread, hline, hne⟩ := recognised_domains_are_read hdetect
  refine ⟨hdetect, hread, hline _ (by decide), hne ⟨"+.B.com".toList, ?_⟩⟩
  decide

end RuleSets
