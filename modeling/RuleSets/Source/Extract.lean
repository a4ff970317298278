import RuleSets.Bucket
import RuleSets.Source.Format

/-!
# Extraction

Reading the rules out of a source.  Every format has its units: the items of a list, the rules of a
rule set, or the lines of a text.  A unit gives some raw values, each of which is one rule or none,
and the bucket of a source holds the rules of all its units.
-/

namespace RuleSets

/-- A raw value and the kind under which it was found. -/
abbrev RawRule := Kind × Text

namespace Bucket

/-- The bucket of raw values. -/
def ofRaw (raws : List RawRule) : Bucket :=
  OrderedSet.ofList (raws.filterMap fun raw => Rule.parse? raw.1 raw.2)

/-- A bucket of raw values holds exactly the rules that they are brought to. -/
theorem mem_ofRaw {raws : List RawRule} {r : Rule} :
    r ∈ ofRaw raws ↔ ∃ raw ∈ raws, Rule.parse? raw.1 raw.2 = some r :=
  OrderedSet.mem_ofList.trans List.mem_filterMap

/-- Inserting raw values one after the other gives the same bucket. -/
theorem foldl_insertRaw (raws : List RawRule) :
    raws.foldl (fun b raw => b.insertRaw raw.1 raw.2) ∅ = ofRaw raws := by
  have mem (b : Bucket) (r : Rule) : r ∈ raws.foldl (fun b raw => b.insertRaw raw.1 raw.2) b ↔
      r ∈ b ∨ ∃ raw ∈ raws, Rule.parse? raw.1 raw.2 = some r := by
    induction raws generalizing b with
    | nil => simp
    | cons raw raws ih =>
      simp only [List.foldl_cons, ih, mem_insertRaw, List.mem_cons, exists_eq_or_imp]
      rw [or_assoc, or_left_comm]
  exact OrderedSet.ext fun r => by simp [mem, mem_ofRaw]

end Bucket

namespace Extract

/-! ### Clash -/

/-- The text of an item: a string, or a list of just one string. -/
def itemText? : Value → Option Text
  | .string s => some s
  | .list [.string s] => some s
  | _ => none

/-- The rule lines of a list's items. -/
def itemLines (items : List Value) : List Text :=
  ((items.filterMap itemText?).map Text.cleanItem).filter Text.isContent

/-- The rule lines of a clash source. -/
def clashLines (doc : Document) (s : Text) : List Text :=
  match doc with
  | .keyed _ items | .list items | .ruleSet _ items => itemLines items
  | .object => []
  | .text => (Text.contentLines s).map Text.cleanItem

/-- The rules of a clash source: its rule lines of known type. -/
def clash (doc : Document) (s : Text) : List RawRule := (clashLines doc s).filterMap Kind.splitRule?

/-! ### Domain lists -/

/-- Whether a text can be a domain name in a list: it has a period, and no white space, slash
or colon. -/
def isBareDomain (s : Text) : Bool :=
  s.contains '.' && !s.any fun c => Text.isBlank c || c == '/' || c == ':'

/-- What a line of a domain list names: a whole line is a suffix, and a rule line counts if its type
is one of the two that a domain list may have. -/
def domainOfLine? (line : Text) : Option RawRule :=
  if line.contains ',' then
    match Text.splitRule? line with
    | some (keyword, value) =>
      if Text.eqIgnoringAsciiCase keyword (Kind.keyword .domain) then some (.domain, value)
      else if Text.eqIgnoringAsciiCase keyword (Kind.keyword .domainSuffix) then
        some (.domainSuffix, value)
      else none
    | none => none
  else some (.domainSuffix, line)

/-- The rule of a line of a domain list.  One leading plus sign is dropped. -/
def domainRule? (line : Text) : Option RawRule :=
  match domainOfLine? line with
  | some (kind, value) =>
    let value := (Text.afterPrefix? ['+'] value).getD value
    if isBareDomain value then some (kind, value) else none
  | none => none

/-- The rules of a domain list. -/
def domainText (s : Text) : List RawRule :=
  ((Text.contentLines s).map Text.cleanItem).filterMap domainRule?

/-! ### Address lists -/

/-- What a line of an address list names: the value of a rule line for networks, or the
whole line. -/
def networkOfLine? (line : Text) : Option Text :=
  if line.contains ',' then
    match Kind.splitRule? line with
    | some (kind, value) => if kind.isCidr then some value else none
    | none => none
  else some line

/-- The rule of a line of an address list, under the kind of its family. -/
def networkRule? (line : Text) : Option RawRule :=
  match networkOfLine? line with
  | some value => (Network.parse? value).map fun n => (Rule.kindOf n.family, value)
  | none => none

/-- The rules of an address list. -/
def ipText (s : Text) : List RawRule :=
  ((Text.contentLines s).map Text.cleanItem).filterMap networkRule?

/-! ### Rule sets -/

/-- Whether a rule can be flattened: it is of the default type and not inverted. -/
def isFlat (fields : List (Text × Value)) : Bool :=
  ((Value.field? "type".toList fields).bind Value.string?).all (· == "default".toList) &&
    match Value.field? "invert".toList fields with
    | some (.bool true) => false
    | _ => true

/-- The strings of a field: one, or those in a list. -/
def fieldStrings : Value → List Text
  | .string s => [s]
  | .list items => items.filterMap Value.string?
  | _ => []

/-- The raw values of a field, if it is one of an extracted kind. -/
def fieldRules (field : Text × Value) : List RawRule :=
  match Kind.ofFieldName? field.1 with
  | some kind => (fieldStrings field.2).map fun s => (kind, s)
  | none => []

/-- The raw values of one rule of a rule set. -/
def ruleOfValue : Value → List RawRule
  | .object fields => if isFlat fields then fields.flatMap fieldRules else []
  | _ => []

/-- The rules that a rule-set source lists. -/
def listedRules : Document → List Value
  | .ruleSet _ rules => rules
  | .keyed .rules items => items
  | .list items => items
  | _ => []

/-- The rules of a rule-set source. -/
def singbox (doc : Document) : List RawRule := (listedRules doc).flatMap ruleOfValue

/-! ### All formats -/

/-- The raw values of a source in a format. -/
def rawRules (format : Format) (doc : Document) (s : Text) : List RawRule :=
  match format with
  | .clash => clash doc s
  | .domainText => domainText s
  | .ipText => ipText s
  | .singboxJson => singbox doc

end Extract

/-- The bucket of a source whose structure is known. -/
def extractDocument (format : Format) (doc : Document) (s : Text) : Bucket :=
  Bucket.ofRaw (Extract.rawRules format doc s)

/-- The bucket of a source text in a format. -/
def extract (format : Format) (s : Text) : Bucket := extractDocument format (Document.parse s) s

end RuleSets
