import RuleSets.Bucket
import RuleSets.Data.Yaml.Printer

/-!
# Payload lists

The source that mihomo converts: a list of bare values under the key `payload`.  A list has one of
two behaviors.  The domain behavior holds exact domains as they are and suffixes after `+.`; the
address behavior holds networks.  Other kinds cannot be carried.
-/

namespace RuleSets.Target

/-- What the values of a payload list stand for. -/
inductive Behavior where
  | domain
  | ipCidr
deriving DecidableEq, Repr

namespace Behavior

/-- Both behaviors. -/
def all : List Behavior := [domain, ipCidr]

/-- The name of a behavior on a command line. -/
def name : Behavior → Text
  | domain => "domain".toList
  | ipCidr => "ipcidr".toList

/-- The kinds that a behavior can carry. -/
def kinds : Behavior → List Kind
  | domain => [.domain, .domainSuffix]
  | ipCidr => [.ipCidr, .ipCidr6]

end Behavior

/-- How a value of a kind is written in a payload list. -/
def payloadValue (k : Kind) (v : Text) : Text :=
  match k with
  | .domainSuffix => '+' :: '.' :: v
  | _ => v

/-- The values of a payload list, in increasing order and without repetition. -/
def payload (b : Bucket) (behavior : Behavior) : List Text :=
  (OrderedSet.ofList
    (behavior.kinds.flatMap fun k => (b.values k).map (payloadValue k))).toList

/-- The kinds in a bucket that no behavior can carry. -/
def unsupportedKinds (b : Bucket) : List Kind :=
  b.kinds.filter fun k => Behavior.all.all fun behavior => !behavior.kinds.contains k

/-- The text of a payload list. -/
def renderPayload (b : Bucket) (behavior : Behavior) : Text :=
  Yaml.renderList "payload".toList (payload b behavior)

end RuleSets.Target
