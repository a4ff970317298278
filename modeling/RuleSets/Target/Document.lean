import RuleSets.Bucket
import RuleSets.Data.Json.Printer

/-!
# Rule-set documents

The source that sing-box compiles: a version and a list of rules.  A bucket becomes one default rule
with a field for every kind that has values, or no rule at all.  IPv4 and IPv6 networks share a
field.
-/

namespace RuleSets.Target

/-- The version written when none is asked for. -/
def defaultVersion : Nat := 3

/-- The kinds that a rule-set document carries. -/
def documentKinds : List Kind := Kind.all

/-- The values of several kinds as one set, in increasing order. -/
def mergedValues (b : Bucket) (ks : List Kind) : List Text :=
  (OrderedSet.ofList (ks.flatMap b.values)).toList

/-- The fields of a rule and the kinds whose values each of them holds, in the order of writing. -/
def fieldKinds : List (Text × List Kind) :=
  [(Kind.fieldName .domain, [.domain]), (Kind.fieldName .domainSuffix, [.domainSuffix]),
    (Kind.fieldName .domainKeyword, [.domainKeyword]), (Kind.fieldName .domainRegex, [.domainRegex]),
    (Kind.fieldName .ipCidr, [.ipCidr, .ipCidr6]), (Kind.fieldName .processName, [.processName]),
    (Kind.fieldName .processPath, [.processPath]), (Kind.fieldName .ipAsn, [.ipAsn]),
    (Kind.fieldName .geoIp, [.geoIp]), (Kind.fieldName .geoSite, [.geoSite])]

/-- The fields of the rule for a bucket; a field without values is left out. -/
def ruleFields (b : Bucket) : List (Text × Value) :=
  fieldKinds.filterMap fun (name, ks) =>
    match mergedValues b ks with
    | [] => none
    | vs => some (name, .list (vs.map .string))

/-- The rules of the document for a bucket: one, or none if the bucket is empty. -/
def documentRules (b : Bucket) : List Value :=
  match ruleFields b with
  | [] => []
  | fields => [.object (("type".toList, .string "default".toList) :: fields)]

/-- The rule-set document for a bucket. -/
def document (b : Bucket) (version : Nat) : Value :=
  .object [("version".toList, .int version), ("rules".toList, .list (documentRules b))]

/-- The text of the rule-set document for a bucket. -/
def renderDocument (b : Bucket) (version : Nat) : Text :=
  Json.render (document b version) ++ ['\n']

end RuleSets.Target
