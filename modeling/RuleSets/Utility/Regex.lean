import RuleSets.Text.Character

/-!
# Regular expressions

The basic and extended expressions of the tools for text.  A match begins as far to the left as
possible and is then as long as possible; of matches that are equally long, one counts that takes as
much as it can from the left.
-/

namespace RuleSets.Utility

/-- Where an expression can hold without taking up text. -/
inductive Edge where
  | lineStart
  | lineEnd
  | start
  | finish
  | wordStart
  | wordEnd
  | word
  | noWord
  /-- Not behind a character of a word. -/
  | afterOther
  /-- Not before a character of a word. -/
  | beforeOther
deriving DecidableEq, Repr

/-- An expression.  Sets of characters are numbers whose bits say which characters are in them. -/
inductive Regex where
  | empty
  | one (set : Nat)
  | edge (e : Edge)
  | seq (a b : Regex)
  | either (a b : Regex)
  | repeated (least : Nat) (most? : Option Nat) (r : Regex)
  | group (number : Nat) (r : Regex)
  | back (number : Nat)
deriving Repr

namespace Regex

/-! ### Matching -/

/-- Where groups have matched: the number of a group with its start and end, the latest first. -/
abbrev Groups := List (Nat × Nat × Nat)

/-- The longest match so far, and how many steps have been made. -/
structure Search where
  best? : Option (Nat × Groups)
  steps : Nat

/-- So many steps are made for a longer match where one has been found. -/
def patience : Nat := 20000

/-- Whether a search is over. -/
def Search.isOver (size : Nat) (s : Search) : Bool :=
  match s.best? with
  | some (stop, _) => stop == size || patience < s.steps
  | none => false

/-- Whether a character belongs to a word. -/
def isWordChar (c : Char) : Bool := c.isAlphanum || c == '_'

/-- Whether an edge is at a position. -/
def holds (s : Array Char) (isStart : Bool) (i : Nat) : Edge → Bool
  | .start => i == 0 && isStart
  | .finish => i == s.size
  | .lineStart => i == 0 && isStart
  | .lineEnd => i == s.size
  | e =>
    let before := 0 < i && (s[i - 1]?).any isWordChar
    let after := (s[i]?).any isWordChar
    match e with
    | .wordStart => !before && after
    | .wordEnd => before && !after
    | .word => before != after
    | .afterOther => !before
    | .beforeOther => !after
    | _ => before == after

/-- Repeat something as long as it takes up text, then go on; as often as possible first. -/
def iterate (size least : Nat) (most? : Option Nat)
    (step : Nat → Groups → (Nat → Groups → Search → Search) → Search → Search)
    (next : Nat → Groups → Search → Search) : Nat → Nat → Nat → Groups → Search → Search
  | 0, _, i, g, s => next i g s
  | n + 1, count, i, g, s =>
    let s :=
      if most?.all (count < ·) then
        step i g (fun j g s =>
          if j == i && least ≤ count then s
          else iterate size least most? step next n (count + 1) j g s) s
      else s
    if least ≤ count && !s.isOver size then next i g s else s

/-- Try all ways to match from a position, and go on behind each. -/
def run (text : Array Char) (isStart : Bool) :
    Regex → Nat → Groups → (Nat → Groups → Search → Search) → Search → Search
  | .empty, i, g, next, s => next i g s
  | .one set, i, g, next, s =>
    match text[i]? with
    | some c => if set.testBit c.toNat then next (i + 1) g { s with steps := s.steps + 1 } else s
    | none => s
  | .edge e, i, g, next, s => if holds text isStart i e then next i g s else s
  | .seq a b, i, g, next, s =>
    run text isStart a i g (fun j g s => run text isStart b j g next s) s
  | .either a b, i, g, next, s =>
    let s := run text isStart a i g next s
    if s.isOver text.size then s else run text isStart b i g next s
  | .repeated least most? r, i, g, next, s =>
    iterate text.size least most? (run text isStart r) next (text.size - i + least + 1) 0 i g s
  | .group n r, i, g, next, s => run text isStart r i g (fun j g s => next j ((n, i, j) :: g) s) s
  | .back n, i, g, next, s =>
    match g.find? (·.1 == n) with
    | none => s
    | some (_, a, b) =>
      let piece := text.extract a b
      if text.extract i (i + piece.size) == piece then
        next (i + piece.size) g { s with steps := s.steps + 1 }
      else s

/-- The match at a position: its end and its groups. -/
def matchAt? (r : Regex) (text : Array Char) (isStart : Bool) (i : Nat) : Option (Nat × Groups) :=
  (run text isStart r i [] (fun j g s =>
    match s.best? with
    | some (stop, _) => if stop < j then { s with best? := some (j, g) } else s
    | none => { s with best? := some (j, g) }) ⟨none, 0⟩).best?

/-- A match: where it begins and ends, and its groups. -/
structure Found where
  start : Nat
  stop : Nat
  groups : Groups

/-- The text of a group, the whole match being group zero. -/
def Found.group (f : Found) (text : Array Char) (n : Nat) : Text :=
  if n = 0 then (text.extract f.start f.stop).toList
  else
    match f.groups.find? (·.1 == n) with
    | some (_, a, b) => (text.extract a b).toList
    | none => []

/-- The first match from a position on. -/
def find? (r : Regex) (text : Array Char) (isStart : Bool) (first : Nat) : Option Found :=
  (List.range (text.size + 1 - first)).findSome? fun k =>
    (r.matchAt? text isStart (first + k)).map fun (stop, groups) => ⟨first + k, stop, groups⟩

/-- Whether there is a match in a text. -/
def isIn (r : Regex) (text : Text) : Bool := (r.find? text.toArray true 0).isSome

/-- All matches in a text, from left to right, none of them overlapping. -/
def findAll (r : Regex) (text : Array Char) : List Found := go (text.size + 1) 0
where
  go : Nat → Nat → List Found
    | 0, _ => []
    | n + 1, first =>
      match r.find? text true first with
      | none => []
      | some f => f :: go n (if f.stop == f.start then f.stop + 1 else f.stop)

/-! ### Reading -/

/-- The set of some characters. -/
def setOf (cs : Text) : Nat := cs.foldl (fun n c => n ||| Nat.pow 2 c.toNat) 0

/-- All bytes. -/
def bytes : Text := (List.range 256).map Char.ofNat

/-- The set of all bytes. -/
def everything : Nat := Nat.pow 2 256 - 1

/-- The characters that are not in a set. -/
def complement (set : Nat) : Nat := Nat.xor everything set

/-- How an expression is written. -/
structure Dialect where
  isExtended : Bool
  ignoresCase : Bool

/-- A set with the other case of its letters, if case does not matter. -/
def Dialect.cased (d : Dialect) (set : Nat) : Nat :=
  if d.ignoresCase then
    bytes.foldl (fun n c =>
      if set.testBit c.toNat && c.isAlpha then
        n ||| Nat.pow 2 c.toLower.toNat ||| Nat.pow 2 c.toUpper.toNat
      else n) set
  else set

/-- What is left to read, and how many groups have been opened and closed. -/
structure Progress where
  rest : Text
  opened : Nat
  closed : List Nat

/-- A piece of a reader of expressions. -/
abbrev Reading := StateT Progress (Except String)

/-- The set in brackets behind the opening one. -/
def readSet (d : Dialect) : Reading Regex := do
  let unmatched : String := "Unmatched [, [^, [:, [., or [="
  let p ← get
  let (isNegated, t) : Bool × Text :=
    match p.rest with
    | '^' :: t => (true, t)
    | t => (false, t)
  let rec go : Nat → Bool → Nat → Text → Except String (Nat × Text)
    | 0, _, _, _ => .error unmatched
    | n + 1, isFirst, set, t => do
      let single? : Option (Char × Text) ←
        match t with
        | [] => .error unmatched
        | ']' :: rest => if isFirst then .ok (some (']', rest)) else .ok none
        | '[' :: '.' :: c :: '.' :: ']' :: rest => .ok (some (c, rest))
        | '[' :: ':' :: _ | '[' :: '=' :: _ => .ok none
        | c :: rest => .ok (some (c, rest))
      match single?, t with
      | none, ']' :: rest => return (set, rest)
      | none, '[' :: '=' :: c :: '=' :: ']' :: rest => go n false (set ||| setOf [c]) rest
      | none, t =>
        let name := (t.drop 2).takeWhile (fun c => c != ':' && c != ']')
        match (t.drop (2 + name.length)) with
        | ':' :: ']' :: rest =>
          match Text.characterClass? name with
          | some q => go n false (set ||| setOf (bytes.filter q)) rest
          | none => .error "Invalid character class name"
        | _ => .error unmatched
      | some (c, rest), _ =>
        match rest with
        | '-' :: ']' :: _ => go n false (set ||| setOf [c]) rest
        | '-' :: e :: rest' =>
          let (e, rest') : Char × Text :=
            match e, rest' with
            | '[', '.' :: x :: '.' :: ']' :: r => (x, r)
            | e, r => (e, r)
          if e < c then .error "Invalid range end"
          else
            let count := e.toNat - c.toNat + 1
            let range := (List.range count).map fun i => Char.ofNat (c.toNat + i)
            go n false (set ||| setOf range) rest'
        | rest => go n false (set ||| setOf [c]) rest
  let (found, rest) ← (go (t.length + 1) true 0 t : Except String (Nat × Text))
  set { p with rest := rest }
  let found := d.cased found
  return .one (if isNegated then complement found else found)

/-- The bounds behind an opening brace. -/
def bounds? (d : Dialect) (t : Text) : Option (Nat × Option Nat × Text) :=
  let first := t.takeWhile Char.isDigit
  let close? (t : Text) : Option Text :=
    if d.isExtended then Text.afterPrefix? ['}'] t else Text.afterPrefix? ['\\', '}'] t
  match t.drop first.length with
  | ',' :: rest =>
    let second := rest.takeWhile Char.isDigit
    (close? (rest.drop second.length)).map fun rest =>
      (Text.valueOf 10 first, if second.isEmpty then none else some (Text.valueOf 10 second), rest)
  | rest =>
    if first.isEmpty then none
    else (close? rest).map fun rest => (Text.valueOf 10 first, some (Text.valueOf 10 first), rest)

/-- Whether an alternative ends here. -/
def endsBranch (d : Dialect) (depth : Nat) (t : Text) : Bool :=
  match t with
  | [] => true
  | '\\' :: c :: _ => !d.isExtended && (c == '|' || c == ')')
  | '|' :: _ => d.isExtended
  | ')' :: _ => d.isExtended && 0 < depth
  | _ => false

mutual
/-- Read alternatives. -/
def readEither (d : Dialect) : Nat → Nat → Reading Regex
  | 0, _ => throw "Regular expression too big"
  | n + 1, depth => do
    let a ← readBranch d n depth true .empty
    match (← get).rest with
    | '\\' :: '|' :: rest =>
      if d.isExtended then return a
      else
        modify ({ · with rest := rest })
        return .either a (← readEither d n depth)
    | '|' :: rest =>
      if d.isExtended then
        modify ({ · with rest := rest })
        return .either a (← readEither d n depth)
      else return a
    | _ => return a

/-- Read an alternative, of which the first part has been read. -/
def readBranch (d : Dialect) : Nat → Nat → Bool → Regex → Reading Regex
  | 0, _, _, _ => throw "Regular expression too big"
  | n + 1, depth, isFirst, acc => do
    if endsBranch d depth (← get).rest then return acc
    else
      let (atom, isAnchor) ← readAtom d n depth isFirst
      let whole ← readRepeats d n atom isAnchor
      let acc := match acc with | .empty => whole | acc => .seq acc whole
      -- A star behind an anchor at the start stands for itself.
      readBranch d n depth (isFirst && isAnchor && !d.isExtended) acc

/-- Read what says how often something is repeated. -/
def readRepeats (d : Dialect) : Nat → Regex → Bool → Reading Regex
  | 0, r, _ => return r
  | n + 1, r, isAnchor => do
    let take (least : Nat) (most? : Option Nat) (rest : Text) : Reading Regex := do
      modify ({ · with rest := rest })
      readRepeats d n (.repeated least most? r) false
    let bounded (rest : Text) (literal : Reading Regex) : Reading Regex := do
      match bounds? d rest with
      | some (a, b?, rest) =>
        if b?.any (· < a) then throw "Invalid content of \\\x7b\\\x7d"
        if 32767 < a || b?.any (32767 < ·) then throw "Regular expression too big"
        take a b? rest
      | none => literal
    if isAnchor && !d.isExtended then return r
    else
      match (← get).rest with
      | '*' :: rest => take 0 none rest
      | '+' :: rest => if d.isExtended then take 1 none rest else return r
      | '?' :: rest => if d.isExtended then take 0 (some 1) rest else return r
      | '{' :: rest => if d.isExtended then bounded rest (return r) else return r
      | '\\' :: c :: rest =>
        if d.isExtended then return r
        else
          match c with
          | '+' => take 1 none rest
          | '?' => take 0 (some 1) rest
          | '{' =>
            bounded rest <| throw <|
              if rest.contains '}' then "Invalid content of \\\x7b\\\x7d" else "Unmatched \\\x7b"
          | _ => return r
      | _ => return r

/-- Read something that can be repeated, and say whether it is an anchor at the start. -/
def readAtom (d : Dialect) : Nat → Nat → Bool → Reading (Regex × Bool)
  | 0, _, _ => throw "Regular expression too big"
  | n + 1, depth, isFirst => do
    let p ← get
    let one (members : Nat) (rest : Text) : Reading (Regex × Bool) := do
      set { p with rest := rest }
      return (.one (d.cased members), false)
    let edge (e : Edge) (rest : Text) : Reading (Regex × Bool) := do
      set { p with rest := rest }
      return (.edge e, false)
    let group (rest : Text) : Reading (Regex × Bool) := do
      let number := p.opened + 1
      set { p with rest := rest, opened := number }
      let r ← readEither d n (depth + 1)
      let q ← get
      let close := if d.isExtended then [')'] else ['\\', ')']
      match Text.afterPrefix? close q.rest with
      | some rest =>
        set { q with rest := rest, closed := number :: q.closed }
        return (.group number r, false)
      | none => throw "Unmatched ( or \\("
    match p.rest with
    | [] => return (.empty, false)
    | '[' :: rest =>
      set { p with rest := rest }
      return (← readSet d, false)
    | '.' :: rest => one everything rest
    | '^' :: rest =>
      if d.isExtended || isFirst then
        set { p with rest := rest }
        return (.edge .lineStart, true)
      else one (setOf ['^']) rest
    | '$' :: rest =>
      if d.isExtended || endsBranch d 1 rest then edge .lineEnd rest else one (setOf ['$']) rest
    | '*' :: rest =>
      if isFirst then one (setOf ['*']) rest else throw "Invalid preceding regular expression"
    | '(' :: rest => if d.isExtended then group rest else one (setOf ['(']) rest
    | '\\' :: c :: rest =>
      let wordSet := setOf (bytes.filter isWordChar)
      let spaceSet := setOf (bytes.filter Text.isSpace)
      match c with
      | '(' => if d.isExtended then one (setOf ['(']) rest else group rest
      | ')' => if d.isExtended then one (setOf [')']) rest else throw "Unmatched ) or \\)"
      | '{' =>
        if d.isExtended then one (setOf ['{']) rest
        else throw "Invalid preceding regular expression"
      | 'w' => one wordSet rest
      | 'W' => one (complement wordSet) rest
      | 's' => one spaceSet rest
      | 'S' => one (complement spaceSet) rest
      | 'b' => edge .word rest
      | 'B' => edge .noWord rest
      | '<' => edge .wordStart rest
      | '>' => edge .wordEnd rest
      | '\x60' => edge .start rest
      | '\'' => edge .finish rest
      | c =>
        if c.isDigit && c != '0' then
          let number := Text.digitValue c
          if p.closed.contains number then
            set { p with rest := rest }
            return (.back number, false)
          else throw "Invalid back reference"
        else one (setOf [c]) rest
    | ['\\'] => throw "Trailing backslash"
    | c :: rest =>
      if d.isExtended && (c == '+' || c == '?') && isFirst then one (setOf [c]) rest
      else one (setOf [c]) rest
end

/-- The expression that a text spells. -/
def parse (d : Dialect) (t : Text) : Except String Regex := do
  let (r, p) ← (readEither d (8 * t.length + 16) 0).run ⟨t, 0, []⟩
  match p.rest with
  | [] => return r
  | '\\' :: _ | ')' :: _ => throw "Unmatched ) or \\)"
  | _ => return r

/-- The expression that matches just a text. -/
def literal (d : Dialect) (t : Text) : Regex :=
  t.foldr (fun c r => .seq (.one (d.cased (setOf [c]))) r) .empty

/-- The number of groups in an expression. -/
def groupCount : Regex → Nat
  | .empty | .one _ | .edge _ | .back _ => 0
  | .seq a b | .either a b => max (groupCount a) (groupCount b)
  | .repeated _ _ r => groupCount r
  | .group n r => max n (groupCount r)

end Regex
end RuleSets.Utility
