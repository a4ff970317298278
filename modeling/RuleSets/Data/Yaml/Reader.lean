import RuleSets.Data.Yaml.Node
import RuleSets.Data.Yaml.Plain
import RuleSets.Data.Yaml.Token.Scan

/-!
# Reading YAML

The value of a stream of one document.  Scalars get their meaning from their tag or, if they are
plain, from their spelling.  Aliases are followed, with a bound on how often and on how many levels
are nested.
-/

namespace RuleSets.Yaml

/-- A tag of the standard schema. -/
def standardTag (name : Text) : Bytes := Utf8.encode ("tag:yaml.org,2002:".toList ++ name)

/-- The value of a plain scalar.  Integers of more than 64 bits have none. -/
def Plain.value? (s : Text) : Plain → Option Value
  | .null | .unbounded => some .null
  | .bool b => some (.bool b)
  | .int n => some (.int n)
  | .wide => none
  | .float => some (.float s)
  | .string => some (.string s)

/-- Whether a tag begins with an exclamation mark. -/
def isLocalTag (tag : Bytes) : Bool := tag.head? == some '!'.toNat.toUInt8

/-- Whether a tag is an application's own: it is local, and what follows its exclamation mark is
well-formed text. -/
def isApplicationTag (tag : Option Bytes) : Bool :=
  tag.any fun tag => isLocalTag tag && (Utf8.decode? (tag.drop 1)).isSome

/-- The value of a scalar.  A standard tag demands a spelling of its type; a local tag changes
nothing for a plain scalar, and other tags make a string. -/
def scalarValue? (tag : Option Bytes) (plain : Bool) (s : Text) : Option Value :=
  match tag with
  | none => if plain then (Plain.resolve s).value? s else some (.string s)
  | some t =>
    if t == standardTag "null".toList then (if Plain.isNull s then some .null else none)
    else if t == standardTag "bool".toList then (Plain.bool? s).map .bool
    else if t == standardTag "int".toList then (Plain.integer? s).bind (Plain.value? s)
    else if t == standardTag "float".toList then (Plain.float? s).bind (Plain.value? s)
    else if isLocalTag t && plain then (Plain.resolve s).value? s
    else some (.string s)

/-- What a computation over a document may still do: how many aliases it may follow. -/
abbrev Reading := StateT Nat Option

/-- Follow one alias. -/
def follow : Reading Unit := do
  match ← get with
  | 0 => failure
  | n + 1 => set n

/-- The node behind an alias.  Of several nodes with one number the last counts. -/
def target? (anchors : List (Nat × Node)) (id : Nat) : Option Node :=
  (anchors.reverse.find? (·.1 == id)).map (·.2)

/-- The text of a key: a scalar, or an alias of one, whatever its tag. -/
def readKey (anchors : List (Nat × Node)) : Node → Reading Text
  | .scalar _ _ _ s => pure s
  | .reference id => do
    follow
    match target? anchors id with
    | some (.scalar _ _ _ s) => pure s
    | _ => failure
  | _ => failure

/-- The node that a node stands for: an alias stands for another one. -/
def dereference (anchors : List (Nat × Node)) : Node → Reading Node
  | .reference id => do
    follow
    match target? anchors id with
    | some n => pure n
    | none => failure
  | n => pure n

/-- The value of a node that is no alias.  `part?` gives the values of the nodes inside a collection,
unless collections may not go deeper. -/
def readContent (anchors : List (Nat × Node)) (part? : Option (Node → Reading Value)) :
    Node → Reading Value
  | .scalar _ tag plain s =>
    if isApplicationTag tag then failure
    else
      match scalarValue? tag plain s with
      | some v => pure v
      | none => failure
  | .list _ tag items =>
    match part? with
    | none => failure
    | some part =>
      if isApplicationTag tag then failure
      else return .list (← items.mapM part)
  | .mapping _ tag entries =>
    match part? with
    | none => failure
    | some part =>
      if isApplicationTag tag then failure
      else do
        let members ← entries.mapM fun (k, v) => do
          return (← readKey anchors k, ← part v)
        return .object (Value.fieldsOf members)
  | .reference _ => failure

/-- The value of a node that lies at most `depth` collections deep. -/
def readValue (anchors : List (Nat × Node)) : Nat → Node → Reading Value
  | 0, n => do readContent anchors none (← dereference anchors n)
  | depth + 1, n => do
    readContent anchors (some (readValue anchors depth)) (← dereference anchors n)

/-- The largest number of nested collections. -/
def maxDepth : Nat := 128

/-- How often aliases may be followed for every step of a document. -/
def maxFollows : Nat := 100

/-- The value that a whole text stands for; an empty one stands for null. -/
def parse? (s : Text) : Option Value :=
  match (Token.scan? s).bind Document.ofTokens? with
  | none => none
  | some none => some .null
  | some (some n) => ((readValue n.anchored maxDepth n).run (n.size * maxFollows)).map (·.1)

end RuleSets.Yaml
