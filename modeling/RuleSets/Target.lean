import RuleSets.Target.Document
import RuleSets.Target.Payload

/-!
# Targets

A target is one kind of compiled file that is made for every source: a sing-box rule set, and the
two mihomo rule sets.  It covers some kinds of rules and has content when a bucket holds one of
them.
-/

namespace RuleSets

/-- A kind of compiled file. -/
inductive Target where
  | singBox
  | mihomoDomain
  | mihomoIpCidr
deriving DecidableEq, Repr

namespace Target

/-- Every target, in build order. -/
def all : List Target := [singBox, mihomoDomain, mihomoIpCidr]

/-- The printed name of a target. -/
def label : Target → Text
  | singBox => "srs".toList
  | mihomoDomain => "mrs-domain".toList
  | mihomoIpCidr => "mrs-ipcidr".toList

/-- The behavior of a target's payload list; a rule-set document has none. -/
def behavior? : Target → Option Behavior
  | singBox => none
  | mihomoDomain => some .domain
  | mihomoIpCidr => some .ipCidr

/-- The kinds that a target covers. -/
def kinds (t : Target) : List Kind :=
  match t.behavior? with
  | none => documentKinds
  | some behavior => behavior.kinds

/-- Whether a bucket holds a rule for a target. -/
def hasContent (t : Target) (b : Bucket) : Bool := b.hasAny t.kinds

/-- What follows a source's name in the name of its compiled file, before the extension. -/
def nameTail : Target → Text
  | singBox => []
  | mihomoDomain => "_domain".toList
  | mihomoIpCidr => "_ipcidr".toList

/-- The extension of compiled files. -/
def extension : Target → Text
  | singBox => ".srs".toList
  | _ => ".mrs".toList

/-- The extension of emitted sources. -/
def sourceExtension : Target → Text
  | singBox => ".json".toList
  | _ => ".yaml".toList

/-- The file name of the compiled file for a source. -/
def artifactName (t : Target) (name : Text) : Text := name ++ t.nameTail ++ t.extension

/-- The file name of the emitted source for a source. -/
def sourceName (t : Target) (name : Text) : Text := name ++ t.nameTail ++ t.sourceExtension

/-- The text that a target's compiler reads. -/
def render (t : Target) (b : Bucket) (version : Nat) : Text :=
  match t.behavior? with
  | none => renderDocument b version
  | some behavior => renderPayload b behavior

end Target
end RuleSets
