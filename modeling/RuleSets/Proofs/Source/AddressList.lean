import RuleSets.Proofs.Source.Domain
import RuleSets.Proofs.Text.Line

/-!
# Address lists that are taken for domain lists

Bare addresses of the fourth version look like domain names: they have periods and no slash.  So a
list of networks whose first lines are mostly such addresses is recognised as a domain list, and
these addresses are stored as suffixes (`address_lists_hold_domains_iff`).  A line with a slash or a
colon is never stored as a domain, and in no other format is any line.
-/

namespace RuleSets

variable {s l : Text} {r : Rule}

/-! ### Networks as lines -/

section
variable (htrim : Text.trim l = l) (h : (Network.parse? l).isSome = true)
include htrim h

theorem Network.no_comma_of_parse? : ',' ∉ l := fun hmem =>
  absurd (isNetworkChar_of_parse? htrim h _ hmem) (by decide)

namespace Format

theorem looksLikeNetwork_of_parse? : looksLikeNetwork l = l.contains '/' := by
  rw [Bool.eq_iff_iff, looksLikeNetwork, Bool.and_eq_true, List.contains_iff_mem,
    ← Network.slash_mem_iff htrim h, and_self]

theorem looksLikeDomain_of_parse? : looksLikeDomain l = (l.contains '.' && !l.contains '/') := by
  rw [Bool.eq_iff_iff, looksLikeDomain_iff]
  simp only [Bool.and_eq_true, Bool.not_eq_true', List.contains_iff_mem, ← Bool.not_eq_true]
  constructor
  · exact fun hlooks => ⟨hlooks.1, fun hslash => (hlooks.2 _ hslash).2.2 rfl⟩
  · refine fun hlooks => ⟨hlooks.1, fun c hc => ⟨?_, ?_, ?_⟩⟩
    · have hchar := Network.isNetworkChar_of_parse? htrim h c hc
      exact Bool.eq_false_iff.1 (Network.isBlank_of_isNetworkChar hchar)
    · exact fun he => Network.no_comma_of_parse? htrim h (he ▸ hc)
    · exact fun he => hlooks.2 (he ▸ hc)

theorem splitRule?_of_parse? : Kind.splitRule? l = none := by
  rw [Kind.splitRule?, Text.splitRule?_of_no_comma (Network.no_comma_of_parse? htrim h)]

end Format

end

namespace Extract

/-- The name of an address is the address. -/
theorem nameOfLine_of_digit {c : Char} (hc : Text.isDigitOf 10 c = true) :
    nameOfLine (c :: s) = c :: s := by
  have hplus : '+' ≠ c := by
    rintro rfl
    exact absurd hc (by decide)
  have hperiod : c ≠ '.' := by
    rintro rfl
    exact absurd hc (by decide)
  simp [nameOfLine, withoutPlus, Rule.stripDots, Text.afterPrefix?, hplus, hperiod]

theorem lower_of_dotted (h : ∀ c ∈ l, Address.isDottedChar c = true) : Text.lower l = l :=
  Text.lower_eq_self fun c hc => Nat.le_trans (Address.toNat_of_isDottedChar (h c hc)) (by decide)

section
variable (htrim : Text.trim l = l) (h : (Network.parse? l).isSome = true)
include htrim h

theorem isBareDomain_of_parse? :
    isBareDomain l = true ↔ ∃ a, Address.parse? l = some a ∧ a.family = .v4 := by
  rw [isBareDomain_iff, Network.isV4_iff htrim h]
  constructor
  · exact fun ⟨hperiod, hchars⟩ => ⟨hperiod, fun hslash => (hchars _ hslash).2.1 rfl,
      fun hcolon => (hchars _ hcolon).2.2 rfl⟩
  · rintro ⟨hperiod, hslash, hcolon⟩
    refine ⟨hperiod, fun c hc => ⟨?_, fun he => hslash (he ▸ hc), fun he => hcolon (he ▸ hc)⟩⟩
    exact Network.isBlank_of_isNetworkChar (Network.isNetworkChar_of_parse? htrim h c hc)

/-- A network is read as a suffix just when it is a bare address of the fourth version, and then it
is the suffix itself. -/
theorem ruleOfLine?_of_parse? : ruleOfLine? domainRule? l = some r ↔
    (∃ a, Address.parse? l = some a ∧ a.family = .v4) ∧ r = ⟨.domainSuffix, l⟩ := by
  have hbare := isBareDomain_of_parse? htrim h
  rw [ruleOfLine?_of_no_comma (Network.no_comma_of_parse? htrim h)]
  by_cases hv4 : ∃ a, Address.parse? l = some a ∧ a.family = .v4
  · obtain ⟨a, ha, hfamily⟩ := hv4
    obtain ⟨⟨c, q, hl, hc⟩, -, hchars⟩ := Address.dotted_of_parse? ha hfamily
    have hname : nameOfLine l = l := by rw [hl, nameOfLine_of_digit hc]
    have hne : nameOfLine l ≠ [] := by rw [hname, hl]; exact List.cons_ne_nil c q
    rw [if_pos ⟨hbare.2 ⟨a, ha, hfamily⟩, hne⟩, hname, lower_of_dotted hchars]
    constructor
    · exact fun hr => ⟨⟨a, ha, hfamily⟩, (Option.some.inj hr).symm⟩
    · exact fun hr => congrArg some hr.2.symm
  · rw [if_neg fun hand => hv4 (hbare.1 hand.1)]
    exact ⟨nofun, fun hr => absurd hr.1 hv4⟩

end

end Extract

/-! ### Lists of networks -/

theorem extractDocument_nil {f : Format} {doc : Document} (hdoc : doc = .text ∨ doc = .object) :
    extractDocument f doc [] = ∅ := by
  rcases hdoc with rfl | rfl
  · cases f <;> rfl
  · cases f <;> rfl

section
variable (h : ∀ l ∈ Text.contentLines s, (Network.parse? (Text.cleanItem l)).isSome = true)
include h

namespace Format

theorem parse?_of_mem_cleanLines (hl : l ∈ cleanLines s) :
    Text.trim l = l ∧ (Network.parse? l).isSome = true := by
  obtain ⟨w, hw, rfl⟩ := exists_line_of_mem_cleanLines hl
  exact ⟨Text.trim_cleanItem w, h w hw⟩

theorem countP_looksLikeNetwork :
    (sample s).countP looksLikeNetwork = (sample s).countP fun l => l.contains '/' := by
  refine List.countP_congr fun l hl => ?_
  obtain ⟨htrim, hparse⟩ := parse?_of_mem_cleanLines h (List.mem_of_mem_take hl)
  rw [looksLikeNetwork_of_parse? htrim hparse]

theorem countP_looksLikeDomain : (sample s).countP looksLikeDomain =
    (sample s).countP fun l => l.contains '.' && !l.contains '/' := by
  refine List.countP_congr fun l hl => ?_
  obtain ⟨htrim, hparse⟩ := parse?_of_mem_cleanLines h (List.mem_of_mem_take hl)
  rw [looksLikeDomain_of_parse? htrim hparse]

theorem detect_eq_domainText_iff : detect .auto s = domainText ↔
    (Document.parse s).tellsFormat = false ∧
      ¬isShare ((sample s).countP fun l => l.contains '/') (sample s).length = true ∧
      isShare ((sample s).countP fun l => l.contains '.' && !l.contains '/')
        (sample s).length = true := by
  have hhead : ∀ l ∈ (cleanLines s).head?, Kind.splitRule? l = none := fun l hl =>
    let ⟨htrim, hparse⟩ := parse?_of_mem_cleanLines h (List.mem_of_mem_head? hl)
    splitRule?_of_parse? htrim hparse
  rw [detect, ofDocument_eq_iff (f := domainText) nofun nofun, ofSample_eq_domainText_iff,
    countP_looksLikeNetwork h, countP_looksLikeDomain h, and_iff_right hhead, Bool.not_eq_true]

end Format

namespace Extract

/-- No line of networks is a rule line, so that a format with structure has nothing from lines. -/
theorem clash_eq_of_networks (doc : Document) : clash doc s = clash doc [] := by
  cases doc with
  | text =>
    refine List.filterMap_eq_nil_iff.2 fun _ hmem => ?_
    obtain ⟨l, hl, rfl⟩ := List.mem_map.1 hmem
    exact Format.splitRule?_of_parse? (Text.trim_cleanItem l) (h l hl)
  | ruleSet _ _ | keyed _ _ | list _ | object => rfl

theorem mem_extract_domainText : r ∈ extract .domainText s ↔ ∃ l ∈ Text.contentLines s,
    (∃ a, Address.parse? (Text.cleanItem l) = some a ∧ a.family = .v4) ∧
      r = ⟨.domainSuffix, Text.cleanItem l⟩ := by
  refine Bucket.mem_ofRaw_lines.trans (exists_congr fun l => and_congr_right fun hl => ?_)
  exact ruleOfLine?_of_parse? (Text.trim_cleanItem l) (h l hl)

theorem mem_extract_of_ne_domainText {f : Format} (hf : f ≠ .domainText)
    (hr : r.kind = .domain ∨ r.kind = .domainSuffix) :
    r ∈ extract f s ↔ r ∈ extractDocument f (Document.parse s) [] := by
  cases f with
  | clash => rw [extract, extractDocument, rawRules, clash_eq_of_networks h]; rfl
  | domainText => exact absurd rfl hf
  | ipText =>
    have hnot (t : Text) : r ∉ extract .ipText t := by
      intro hmem
      obtain ⟨n, rfl⟩ := exists_network_of_mem_extract hmem
      have hcidr : (Rule.ofNetwork n).kind.isCidr = true := isCidr_kindOf n.family
      rcases hr with hr | hr
      · rw [hr] at hcidr
        cases hcidr
      · rw [hr] at hcidr
        cases hcidr
    exact iff_of_false (hnot s) (hnot [])
  | singboxJson => rfl

/-- The domains that are stored are bare addresses if the list is read as domains.  Otherwise they
come from the structure of the text, whatever its lines are. -/
theorem mem_extract_of_networks {f : Format} (hr : r.kind = .domain ∨ r.kind = .domainSuffix) :
    r ∈ extract f s ↔
      (f = .domainText ∧ ∃ l ∈ Text.contentLines s,
        (∃ a, Address.parse? (Text.cleanItem l) = some a ∧ a.family = .v4) ∧
          r = ⟨.domainSuffix, Text.cleanItem l⟩) ∨
      f ≠ .domainText ∧ r ∈ extractDocument f (Document.parse s) [] := by
  by_cases hf : f = .domainText
  · rw [hf, mem_extract_domainText h]
    simp
  · rw [mem_extract_of_ne_domainText h hf hr]
    simp [hf]

end Extract

end

/-- A list of networks is recognised as a domain list just when its structure tells no other format,
and of its first fifty lines not enough have a slash, but enough a period and no slash, where enough is
at least three and at least sixty in a hundred.  Then its bare addresses of the fourth version are
stored as suffixes, and no other line is stored as a domain.  In any other format no line is, so that
domains come from the structure of the text only, and there are none if it has no structure or lists
nothing. -/
theorem address_lists_hold_domains_iff {s : Text}
    (h : ∀ l ∈ Text.contentLines s, (Network.parse? (Text.cleanItem l)).isSome = true) :
    let format := Format.detect .auto s
    let sample := (Format.cleanLines s).take 50
    let slashed := sample.countP fun l => l.contains '/'
    let dotted := sample.countP fun l => l.contains '.' && !l.contains '/'
    (format = .domainText ↔ (Document.parse s).tellsFormat = false ∧
      ¬(3 ≤ slashed ∧ 60 * sample.length ≤ 100 * slashed) ∧
      3 ≤ dotted ∧ 60 * sample.length ≤ 100 * dotted) ∧
    (∀ r : Rule, r.kind = .domain ∨ r.kind = .domainSuffix → (r ∈ extract format s ↔
      (format = .domainText ∧ ∃ l ∈ Text.contentLines s,
        (∃ a, Address.parse? (Text.cleanItem l) = some a ∧ a.family = .v4) ∧
          r = ⟨.domainSuffix, Text.cleanItem l⟩) ∨
      format ≠ .domainText ∧ r ∈ extractDocument format (Document.parse s) [])) ∧
    (Document.parse s = .text ∨ Document.parse s = .object → format ≠ .domainText →
      ∀ r ∈ extract format s, r.kind ≠ .domain ∧ r.kind ≠ .domainSuffix) := by
  intro format sample slashed dotted
  refine ⟨?_, fun r => Extract.mem_extract_of_networks h, fun hdoc hformat r hmem => ?_⟩
  · rw [Format.detect_eq_domainText_iff h, Format.isShare_iff, Format.isShare_iff]
    rfl
  · refine not_or.1 fun hr => ?_
    rcases (Extract.mem_extract_of_networks h hr).1 hmem with ⟨hdomain, -⟩ | ⟨-, hlisted⟩
    · exact hformat hdomain
    · rw [extractDocument_nil hdoc] at hlisted
      exact OrderedSet.not_mem_empty r hlisted

/-- Bare addresses are recognised as domains, and stored as suffixes. -/
theorem bare_addresses_are_stored_as_domains :
    let s := "1.1.1.1\n2.2.2.2\n3.3.3.3".toList
    (∀ l ∈ Text.contentLines s, (Network.parse? (Text.cleanItem l)).isSome = true) ∧
    Format.detect .auto s = .domainText ∧
    ⟨.domainSuffix, "1.1.1.1".toList⟩ ∈ extract (Format.detect .auto s) s := by
  intro s
  have hdetect : Format.detect .auto s = .domainText := by decide +kernel
  refine ⟨by decide +kernel, hdetect, ?_⟩
  rw [hdetect]
  decide +kernel

/-- Behind a return, a comment may hold a list that is no line. -/
example : let s := "#\r- DOMAIN,a.com".toList
    Text.contentLines s = [] ∧ ⟨.domain, "a.com".toList⟩ ∈ extract (Format.detect .auto s) s := by
  decide +kernel

/-- A network with its length, quotes, and a mapped address, which has periods too. -/
theorem mixed_addresses_are_stored_as_domains :
    let s := "1.1.1.1\n10.0.0.0/8\n'2.2.2.2'\n3.3.3.3\n::ffff:4.4.4.4".toList
    (∀ l ∈ Text.contentLines s, (Network.parse? (Text.cleanItem l)).isSome = true) ∧
    Format.detect .auto s = .domainText ∧
    ⟨.domainSuffix, "2.2.2.2".toList⟩ ∈ extract (Format.detect .auto s) s := by
  intro s
  have h : ∀ l ∈ Text.contentLines s, (Network.parse? (Text.cleanItem l)).isSome = true := by
    decide +kernel
  obtain ⟨hdetect, hread, -⟩ := address_lists_hold_domains_iff h
  have hformat : Format.detect .auto s = .domainText :=
    hdetect.2 ⟨by decide +kernel, by decide +kernel, by decide +kernel⟩
  refine ⟨h, hformat, (hread _ (.inr rfl)).2 (.inl ⟨hformat, ?_⟩)⟩
  have hv4 : ∃ a ∈ Address.parse? "2.2.2.2".toList, a.family = .v4 := by decide +kernel
  exact ⟨"'2.2.2.2'".toList, by decide +kernel, hv4, rfl⟩

end RuleSets
