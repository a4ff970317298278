import RuleSets.Proofs.Source.FirstLine

/-!
# Networks in rule lines

A rule line for networks can stand in a clash source and in an address list.  In the one its value
is filed as it is brought to a rule, in the other it is taken for a network and filed by its family
before that; both make the same rule of it.  So an address list differs from the clash source with
the same lines in lines without a comma only (`address_list_agrees_with_clash`).
-/

namespace RuleSets

variable {s l raw : Text} {k : Kind} {r : Rule}

theorem Rule.isCidr_of_parse? (h : parse? k raw = some r) : r.kind.isCidr = k.isCidr := by
  cases hk : k.isCidr with
  | true =>
    rw [parse?_network hk] at h
    obtain ⟨n, -, rfl⟩ := Option.map_eq_some_iff.1 h
    exact Extract.isCidr_kindOf n.family
  | false => rw [kind_of_parse h hk, hk]

namespace Extract

/-! ### Single lines -/

theorem ruleOfLine?_networkRule? (l : Text) :
    ruleOfLine? networkRule? l = (networkOfLine? l).bind fun v =>
      (Network.parse? v).map Rule.ofNetwork := by
  rw [ruleOfLine?, networkRule?]
  cases networkOfLine? l with
  | none => rfl
  | some v =>
    dsimp only [Option.bind_some]
    cases hn : Network.parse? v with
    | none => rfl
    | some n =>
      rw [Option.map_some, Option.bind_some, Rule.parse?_network (isCidr_kindOf n.family), hn]

theorem ruleOfLine?_networkRule?_of_no_comma (h : ',' ∉ l) :
    ruleOfLine? networkRule? l = (Network.parse? l).map Rule.ofNetwork := by
  rw [ruleOfLine?_networkRule?, networkOfLine?, if_neg (mt List.contains_iff_mem.1 h),
    Option.bind_some]

/-- From a line with a comma an address list takes what a clash source does, if it is a network. -/
theorem ruleOfLine?_networkRule?_of_comma (h : ',' ∈ l) : ruleOfLine? networkRule? l =
    (ruleOfLine? Kind.splitRule? l).filter fun r => r.kind.isCidr := by
  rw [ruleOfLine?_networkRule?, networkOfLine?, if_pos (List.contains_iff_mem.2 h), ruleOfLine?]
  cases Kind.splitRule? l with
  | none => rfl
  | some raw =>
    obtain ⟨k, v⟩ := raw
    dsimp only [Option.bind_some]
    -- Whether a rule is that of a network is told by the kind that was asked for.
    cases hk : k.isCidr with
    | true =>
      rw [if_pos rfl, Option.bind_some, ← Rule.parse?_network hk]
      cases hr : Rule.parse? k v with
      | none => rfl
      | some r => rw [Option.filter_some, if_pos ((Rule.isCidr_of_parse? hr).trans hk)]
    | false =>
      rw [if_neg Bool.false_ne_true, Option.bind_none]
      cases hr : Rule.parse? k v with
      | none => rfl
      | some r =>
        have hcidr : r.kind.isCidr = false := (Rule.isCidr_of_parse? hr).trans hk
        rw [Option.filter_some, if_neg (Bool.eq_false_iff.1 hcidr)]

theorem comma_of_ruleOfLine? (h : ruleOfLine? Kind.splitRule? l = some r) : ',' ∈ l := by
  refine Decidable.byContradiction fun hcomma => ?_
  rw [ruleOfLine?, Kind.splitRule?, Text.splitRule?_of_no_comma hcomma] at h
  cases h

/-! ### Address lists -/

/-- The rules of an address list are those of networks that its rule lines make, and the networks
that make up a line. -/
theorem mem_extract_ipText : r ∈ extract .ipText s ↔
    (r.kind.isCidr = true ∧
      ∃ l ∈ Text.contentLines s, ruleOfLine? Kind.splitRule? (Text.cleanItem l) = some r) ∨
    ∃ l ∈ Text.contentLines s, ',' ∉ Text.cleanItem l ∧
      ∃ n, Network.parse? (Text.cleanItem l) = some n ∧ Rule.ofNetwork n = r := by
  rw [extract, extractDocument, rawRules, ipText, Bucket.mem_ofRaw_lines]
  constructor
  · rintro ⟨l, hl, hr⟩
    by_cases hcomma : ',' ∈ Text.cleanItem l
    · rw [ruleOfLine?_networkRule?_of_comma hcomma, Option.filter_eq_some_iff] at hr
      exact .inl ⟨hr.2, l, hl, hr.1⟩
    · rw [ruleOfLine?_networkRule?_of_no_comma hcomma, Option.map_eq_some_iff] at hr
      exact .inr ⟨l, hl, hcomma, hr⟩
  · rintro (⟨hcidr, l, hl, hr⟩ | ⟨l, hl, hcomma, hn⟩)
    · refine ⟨l, hl, ?_⟩
      rw [ruleOfLine?_networkRule?_of_comma (comma_of_ruleOfLine? hr), Option.filter_eq_some_iff]
      exact ⟨hr, hcidr⟩
    · refine ⟨l, hl, ?_⟩
      rw [ruleOfLine?_networkRule?_of_no_comma hcomma, Option.map_eq_some_iff]
      exact hn

end Extract

/-- Read as an address list, a text without structure gives every network that it gives as a clash
source, under the same kind, and more only by lines that are networks themselves.  If all its lines
have a comma, it gives the networks of the clash source and nothing else. -/
theorem address_list_agrees_with_clash (hdoc : Document.parse s = .text) :
    (∀ r ∈ extract .clash s, r.kind.isCidr = true → r ∈ extract .ipText s) ∧
    (∀ r ∈ extract .ipText s, r ∉ extract .clash s →
      ∃ l ∈ Text.contentLines s, ',' ∉ Text.cleanItem l ∧
        ∃ n, Network.parse? (Text.cleanItem l) = some n ∧ Rule.ofNetwork n = r) ∧
    ((∀ l ∈ Text.contentLines s, ',' ∈ Text.cleanItem l) →
      extract .ipText s = (extract .clash s).filter fun r => r.kind.isCidr) := by
  have hmem : ∀ r, r ∈ extract .ipText s ↔ (r.kind.isCidr = true ∧ r ∈ extract .clash s) ∨
      ∃ l ∈ Text.contentLines s, ',' ∉ Text.cleanItem l ∧
        ∃ n, Network.parse? (Text.cleanItem l) = some n ∧ Rule.ofNetwork n = r := by
    intro r
    rw [Extract.mem_extract_ipText, Extract.mem_extract_clash_of_text hdoc]
  refine ⟨fun r hr hcidr => (hmem r).2 (.inl ⟨hcidr, hr⟩), fun r hr hnot => ?_, fun hcomma => ?_⟩
  · rcases (hmem r).1 hr with ⟨-, hclash⟩ | hline
    · exact absurd hclash hnot
    · exact hline
  · refine OrderedSet.ext fun r => ?_
    rw [hmem, OrderedSet.mem_filter, and_comm]
    refine or_iff_left ?_
    rintro ⟨l, hl, hnot, -⟩
    exact hnot (hcomma l hl)

/-- The network of a rule line is filed by its family from both, and a bare address from an address
list only. -/
theorem bare_address_is_left_to_address_lists :
    let s := "IP-CIDR,2001:db8::1/32,no-resolve\nDOMAIN,a.com\n8.8.8.8".toList
    Document.parse s = .text ∧ ⟨.ipCidr6, "2001:db8::/32".toList⟩ ∈ extract .ipText s ∧
      ∃ l ∈ Text.contentLines s, ',' ∉ Text.cleanItem l ∧
        ∃ n, Network.parse? (Text.cleanItem l) = some n ∧
          Rule.ofNetwork n = ⟨.ipCidr, "8.8.8.8/32".toList⟩ := by
  intro s
  have htext : (match Document.parse s with | .text => true | _ => false) = true := by decide +kernel
  have hdoc : Document.parse s = .text := by
    cases hd : Document.parse s with
    | text => rfl
    | _ => rw [hd] at htext; cases htext
  obtain ⟨hboth, hmore, -⟩ := address_list_agrees_with_clash hdoc
  refine ⟨hdoc, hboth _ ?_ rfl, hmore _ ?_ ?_⟩
  · decide +kernel
  · decide +kernel
  · decide +kernel

end RuleSets
