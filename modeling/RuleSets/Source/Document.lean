import RuleSets.Data.Json.Reader
import RuleSets.Data.Yaml.Reader
import RuleSets.Text.Line

/-!
# Source documents

The structure of a source text, if it has one.  A text is read as JSON and, where that fails, as
YAML; reading never fails, since a text that is neither is just a text.
-/

namespace RuleSets

/-- The keys under which an object may list its rules. -/
inductive ListKey where
  | payload
  | rules
deriving DecidableEq, Repr

/-- How a list key is spelled. -/
def ListKey.name : ListKey → Text
  | payload => "payload".toList
  | rules => "rules".toList

/-- What a source text is, as far as its structure goes. -/
inductive Document where
  /-- A rule-set document: an object with a version and a list of rules. -/
  | ruleSet (version : Int) (rules : List Value)
  /-- Another object with a list under one of the known keys. -/
  | keyed (key : ListKey) (items : List Value)
  /-- A list. -/
  | list (items : List Value)
  /-- Any other object. -/
  | object
  /-- A scalar, or no structure at all. -/
  | text
deriving Inhabited

namespace Document

/-- The version of an object: an integer that fits 64 bits. -/
def version? (fields : List (Text × Value)) : Option Int :=
  match Value.field? "version".toList fields with
  | some (.int n) => if Value.fitsSigned64 n then some n else none
  | _ => none

/-- The list under a key of an object. -/
def listAt? (key : ListKey) (fields : List (Text × Value)) : Option (List Value) :=
  (Value.field? key.name fields).bind Value.list?

/-- The structure of an object. -/
def ofFields (fields : List (Text × Value)) : Document :=
  match version? fields, listAt? .payload fields, listAt? .rules fields with
  | some version, _, some rules => ruleSet version rules
  | _, some items, _ => keyed .payload items
  | _, none, some items => keyed .rules items
  | _, none, none => object

/-- The structure of a value. -/
def ofValue : Value → Document
  | .object fields => ofFields fields
  | .list items => list items
  | _ => text

/-- The value of a text: JSON if it is that, else YAML. -/
def value? (s : Text) : Option Value := (Json.parse? s).or (Yaml.parse? s)

/-- The structure of a text, a leading byte order mark aside. -/
def parse (s : Text) : Document :=
  match value? (Text.dropMark s) with
  | some v => ofValue v
  | none => text

end Document
end RuleSets
