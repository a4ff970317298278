import RuleSets.Data.Yaml.Token

/-!
# Nodes of a YAML document

The tree that a stream of tokens describes, before scalars get their meaning.  An alias refers to a
node by the number its anchor got.  `Document.ofTokens?` accepts a stream of one document.
-/

namespace RuleSets.Yaml

/-- A node: its anchor's number and its tag, and its content. -/
inductive Node where
  | scalar (anchor : Option Nat) (tag : Option Bytes) (plain : Bool) (text : Text)
  | reference (target : Nat)
  | list (anchor : Option Nat) (tag : Option Bytes) (items : List Node)
  | mapping (anchor : Option Nat) (tag : Option Bytes) (entries : List (Node × Node))
deriving Inhabited, Repr

namespace Node

/-- The node that stands where nothing is written. -/
def empty : Node := scalar none none true []

mutual

/-- The number of steps it takes to read a node: one for a leaf, two around the parts of
a collection. -/
def size : Node → Nat
  | scalar _ _ _ _ | reference _ => 1
  | list _ _ items => sizeItems items + 2
  | mapping _ _ entries => sizeEntries entries + 2

/-- The size of the items of a list. -/
def sizeItems : List Node → Nat
  | [] => 0
  | n :: ns => size n + sizeItems ns

/-- The size of the entries of a mapping. -/
def sizeEntries : List (Node × Node) → Nat
  | [] => 0
  | (k, v) :: es => size k + size v + sizeEntries es

end

mutual

/-- The nodes with an anchor, in the order in which they begin. -/
def anchored : Node → List (Nat × Node)
  | scalar a t p s => (a.map fun i => (i, scalar a t p s)).toList
  | reference _ => []
  | list a t items => (a.map fun i => (i, list a t items)).toList ++ anchoredItems items
  | mapping a t entries =>
    (a.map fun i => (i, mapping a t entries)).toList ++ anchoredEntries entries

/-- The anchored nodes among the items of a list. -/
def anchoredItems : List Node → List (Nat × Node)
  | [] => []
  | n :: ns => anchored n ++ anchoredItems ns

/-- The anchored nodes among the entries of a mapping. -/
def anchoredEntries : List (Node × Node) → List (Nat × Node)
  | [] => []
  | (k, v) :: es => anchored k ++ anchored v ++ anchoredEntries es

end

end Node

/-! ### Reading nodes -/

/-- The tokens that are left, and the number of every anchor's name. -/
structure NodeReader where
  tokens : List Token
  anchors : List (Text × Nat)

namespace NodeReader

/-- Go on with other tokens. -/
def goto (ts : List Token) (st : NodeReader) : NodeReader := { st with tokens := ts }

/-- Give an anchor a number: how many names there are.  A name that is used again gets a
new number. -/
def define (name : Option Text) (st : NodeReader) : Option Nat × NodeReader :=
  match name with
  | none => (none, st)
  | some name =>
    let n := st.anchors.length
    (some n, { st with anchors := (name, n) :: st.anchors.filter (·.1 != name) })

/-- The number of a name. -/
def number? (name : Text) (st : NodeReader) : Option Nat :=
  (st.anchors.find? (·.1 == name)).map (·.2)

end NodeReader

/-- What the handles of tags stand for. -/
abbrev TagTable := List (Text × Bytes)

/-- The bytes of a tag; its handle must be known, unless it has none. -/
def resolveTag? (table : TagTable) (handle : Text) (rest : Bytes) : Option Bytes :=
  if handle.isEmpty then some rest
  else (table.find? (·.1 == handle)).map fun entry => entry.2 ++ rest

/-- The properties before a node: an anchor and a tag in either order. -/
def properties : List Token → Option Text × Option (Text × Bytes) × List Token
  | .anchor a :: .tag h r :: ts => (some a, some (h, r), ts)
  | .tag h r :: .anchor a :: ts => (some a, some (h, r), ts)
  | .anchor a :: ts => (some a, none, ts)
  | .tag h r :: ts => (none, some (h, r), ts)
  | ts => (none, none, ts)

/-- Whether a value or a key is missing in a block collection. -/
def endsBlockPart : List Token → Bool
  | .key :: _ | .value :: _ | .blockEnd :: _ => true
  | _ => false

/-- Whether an item is missing in a block sequence. -/
def endsBlockItem : List Token → Bool
  | .blockEntry :: _ | .blockEnd :: _ => true
  | _ => false

/-- Whether a value is missing in a flow collection. -/
def endsFlowPart : List Token → Bool
  | .flowEntry :: _ | .flowSequenceEnd :: _ | .flowMappingEnd :: _ => true
  | _ => false

/-- The tokens at the start of the next part of a flow collection: every part but the first comes
after a comma. -/
def flowPart? (first : Bool) (ts : List Token) : Option (List Token) :=
  if first then some ts
  else
    match ts with
    | .flowEntry :: ts => some ts
    | _ => none

section Grammar
variable (table : TagTable)

mutual

/-- A node.  `block` allows block collections, and `indentless` a block sequence that is
not indented. -/
def readNode? : Nat → Bool → Bool → NodeReader → Option (Node × NodeReader)
  | 0, _, _, _ => none
  | fuel + 1, block, indentless, st =>
    match st.tokens with
    | .reference name :: ts => (st.number? name).map fun n => (.reference n, st.goto ts)
    | tokens =>
      let (name, tag, ts) := properties tokens
      match tag.mapM fun (handle, rest) => resolveTag? table handle rest with
      | none => none
      | some tag =>
        let (anchor, st) := st.define name
        match ts, block, indentless with
        | .blockEntry :: _, _, true =>
          (readIndentless? fuel (st.goto ts)).map fun (ns, st) => (.list anchor tag ns, st)
        | .scalar plain text :: ts, _, _ => some (.scalar anchor tag plain text, st.goto ts)
        | .flowSequenceStart :: ts, _, _ =>
          (readFlowItems? fuel true (st.goto ts)).map fun (ns, st) => (.list anchor tag ns, st)
        | .flowMappingStart :: ts, _, _ =>
          (readFlowEntries? fuel true (st.goto ts)).map fun (es, st) => (.mapping anchor tag es, st)
        | .blockSequenceStart :: ts, true, _ =>
          (readItems? fuel (st.goto ts)).map fun (ns, st) => (.list anchor tag ns, st)
        | .blockMappingStart :: ts, true, _ =>
          (readEntries? fuel (st.goto ts)).map fun (es, st) => (.mapping anchor tag es, st)
        | ts, _, _ =>
          if anchor.isSome || tag.isSome then some (.scalar anchor tag true [], st.goto ts)
          else none

/-- The items of a block sequence up to its end. -/
def readItems? : Nat → NodeReader → Option (List Node × NodeReader)
  | 0, _ => none
  | fuel + 1, st =>
    match st.tokens with
    | .blockEnd :: ts => some ([], st.goto ts)
    | .blockEntry :: ts =>
      match (if endsBlockItem ts then some (.empty, st.goto ts)
        else readNode? fuel true false (st.goto ts)) with
      | none => none
      | some (n, st) => (readItems? fuel st).map fun (ns, st) => (n :: ns, st)
    | _ => none

/-- The items of a block sequence that is not indented: it ends at the first other token. -/
def readIndentless? : Nat → NodeReader → Option (List Node × NodeReader)
  | 0, _ => none
  | fuel + 1, st =>
    match st.tokens with
    | .blockEntry :: ts =>
      match (if endsBlockItem ts || endsBlockPart ts then some (.empty, st.goto ts)
        else readNode? fuel true false (st.goto ts)) with
      | none => none
      | some (n, st) => (readIndentless? fuel st).map fun (ns, st) => (n :: ns, st)
    | _ => some ([], st)

/-- A key or a value in a block mapping. -/
def readBlockPart? : Nat → NodeReader → Option (Node × NodeReader)
  | 0, _ => none
  | fuel + 1, st =>
    if endsBlockPart st.tokens then some (.empty, st) else readNode? fuel true true st

/-- The entries of a block mapping up to its end. -/
def readEntries? : Nat → NodeReader → Option (List (Node × Node) × NodeReader)
  | 0, _ => none
  | fuel + 1, st =>
    match st.tokens with
    | .blockEnd :: ts => some ([], st.goto ts)
    | .key :: ts =>
      match readBlockPart? fuel (st.goto ts) with
      | none => none
      | some (k, st) =>
        match (match st.tokens with
          | .value :: ts => readBlockPart? fuel (st.goto ts)
          | _ => some (.empty, st)) with
        | none => none
        | some (v, st) => (readEntries? fuel st).map fun (es, st) => ((k, v) :: es, st)
    | _ => none

/-- The value of a flow entry, if it has one. -/
def readFlowValue? : Nat → NodeReader → Option (Node × NodeReader)
  | 0, _ => none
  | fuel + 1, st =>
    match st.tokens with
    | .value :: ts =>
      if endsFlowPart ts then some (.empty, st.goto ts) else readNode? fuel false false (st.goto ts)
    | _ => some (.empty, st)

/-- The items of a flow sequence up to its end.  A single entry may stand for a mapping; where its
key is missing, the token after the question mark is passed over. -/
def readFlowItems? : Nat → Bool → NodeReader → Option (List Node × NodeReader)
  | 0, _, _ => none
  | fuel + 1, first, st =>
    match st.tokens with
    | .flowSequenceEnd :: ts => some ([], st.goto ts)
    | tokens =>
      match flowPart? first tokens with
      | none => none
      | some (.flowSequenceEnd :: ts) => some ([], st.goto ts)
      | some (.key :: ts) =>
        let key? :=
          match ts with
          | .value :: ts | .flowEntry :: ts | .flowSequenceEnd :: ts => some (.empty, st.goto ts)
          | ts => readNode? fuel false false (st.goto ts)
        match key? with
        | none => none
        | some (k, st) =>
          match readFlowValue? fuel st with
          | none => none
          | some (v, st) =>
            (readFlowItems? fuel false st).map fun (ns, st) =>
              (.mapping none none [(k, v)] :: ns, st)
      | some ts =>
        match readNode? fuel false false (st.goto ts) with
        | none => none
        | some (n, st) => (readFlowItems? fuel false st).map fun (ns, st) => (n :: ns, st)

/-- The entries of a flow mapping up to its end. -/
def readFlowEntries? : Nat → Bool → NodeReader → Option (List (Node × Node) × NodeReader)
  | 0, _, _ => none
  | fuel + 1, first, st =>
    match st.tokens with
    | .flowMappingEnd :: ts => some ([], st.goto ts)
    | tokens =>
      match flowPart? first tokens with
      | none => none
      | some (.flowMappingEnd :: ts) => some ([], st.goto ts)
      | some (.key :: ts) =>
        let key? :=
          match ts with
          | .value :: _ | .flowEntry :: _ | .flowMappingEnd :: _ => some (.empty, st.goto ts)
          | ts => readNode? fuel false false (st.goto ts)
        match key? with
        | none => none
        | some (k, st) =>
          match readFlowValue? fuel st with
          | none => none
          | some (v, st) => (readFlowEntries? fuel false st).map fun (es, st) => ((k, v) :: es, st)
      | some ts =>
        match readNode? fuel false false (st.goto ts) with
        | none => none
        | some (n, st) =>
          (readFlowEntries? fuel false st).map fun (es, st) => ((n, .empty) :: es, st)

end

end Grammar

/-! ### Documents -/

/-- The directives before a document: whether a version was given, and the tag handles. -/
def readDirectives? : Bool → TagTable → List Token → Option (TagTable × List Token)
  | seen, table, .version major minor :: ts =>
    if seen || major ≠ 1 || (minor ≠ 1 && minor ≠ 2) then none else readDirectives? true table ts
  | seen, table, .tagDirective handle start :: ts =>
    if table.any (·.1 == handle) then none else readDirectives? seen ((handle, start) :: table) ts
  | _, table, ts => some (table, ts)

/-- The handles that need no directive. -/
def defaultTags : TagTable :=
  [(['!'], Utf8.encode ['!']), (['!', '!'], Utf8.encode "tag:yaml.org,2002:".toList)]

/-- Whether a document that was opened has no content. -/
def endsDocument : List Token → Bool
  | [] => true
  | .version _ _ :: _ | .tagDirective _ _ :: _ | .documentStart :: _ | .documentEnd :: _ => true
  | _ => false

/-- The root node of a stream of one document.  A stream without tokens has none. -/
def Document.ofTokens? (ts : List Token) : Option (Option Node) :=
  if ts.isEmpty then some none
  else
    match readDirectives? false [] ts with
    | none => none
    | some (table, rest) =>
      let table := table ++ defaultTags
      let fuel := 4 * ts.length + 8
      let node? : Option (Node × NodeReader) :=
        match rest with
        | .documentStart :: rest =>
          if endsDocument rest then some (.empty, ⟨rest, []⟩)
          else readNode? table fuel true false ⟨rest, []⟩
        | rest =>
          if rest.length = ts.length then readNode? table fuel true false ⟨rest, []⟩ else none
      match node? with
      | none => none
      | some (n, st) =>
        if (st.tokens.dropWhile (· == .documentEnd)).isEmpty then some (some n) else none

end RuleSets.Yaml
