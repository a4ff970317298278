import RuleSets.Shell.Arithmetic
import RuleSets.Shell.Session

/-!
# Expansion

What words stand for: tildes, parameters, the output of commands and the values of expressions are
put in, the result is split into fields, and fields that are patterns become the paths that they
match.
-/

namespace RuleSets.Shell.Sh

/-! ### Values -/

/-- Where a tilde stands for a home directory. -/
inductive TildeRule where
  | nowhere
  | atStart
  /-- At the start and behind colons. -/
  | afterColons
deriving DecidableEq

/-- How a word is expanded. -/
structure Manner where
  /-- Whether it becomes several fields. -/
  isSplit : Bool
  /-- Whether text as it stands is split, too. -/
  isTextSplit : Bool
  tildes : TildeRule

namespace Manner

/-- How arguments are expanded. -/
def argument : Manner := ⟨true, false, .atStart⟩

/-- How a value that is assigned is expanded. -/
def value : Manner := ⟨false, false, .afterColons⟩

/-- How a word is expanded that is to be one text. -/
def single : Manner := ⟨false, false, .atStart⟩

/-- How what stands in quotes is expanded. -/
def quoted : Manner := ⟨false, false, .nowhere⟩

/-- How the word behind a parameter is expanded. -/
def within (m : Manner) (inQuotes : Bool) : Manner :=
  { m with isTextSplit := m.isSplit && !inQuotes, tildes := if inQuotes then .nowhere else .atStart }

end Manner

/-- What text that was put in for something is among segments. -/
def inserted (m : Manner) (inQuotes : Bool) (t : Text) : List Segment :=
  if inQuotes then [.fixed (marked true t)]
  else if m.isSplit then [.split [t]]
  else [.fixed (marked false t)]

/-- What plain text is among segments. -/
def plainText (m : Manner) (t : Text) : List Segment :=
  if t.isEmpty then [] else if m.isTextSplit then [.split [t]] else [.fixed (marked false t)]

/-- The characters of segments. -/
def flattened (segments : List Segment) : List Mark :=
  segments.flatMap fun
    | .fixed marks => marks
    | .split texts | .apart texts => texts.flatMap (marked false)

/-- The home directory of a user, or of whoever runs the shell. -/
def home? (user : Text) : Sh (Option Text) := do
  if user.isEmpty then value? "HOME".toList
  else return if user == "root".toList then some "/root".toList else none

/-- Plain text in which a tilde at the start stands for a home directory.  Nothing follows the text,
or it does not matter since the name of the user ends in it. -/
def withTilde (m : Manner) (isLast : Bool) (t : Text) : Sh (List Segment) := do
  let endsName (c : Char) : Bool := c == '/' || (m.tildes == .afterColons && c == ':')
  match t with
  | '~' :: rest =>
    let user := rest.takeWhile (!endsName ·)
    let after := rest.drop user.length
    if after.isEmpty && !isLast then return plainText m t
    else
      match ← home? user with
      | some home => return .fixed (marked true home) :: plainText m after
      | none => return plainText m t
  | t => return plainText m t

/-- Plain text in which tildes stand for home directories as the manner says. -/
def withTildes (m : Manner) (isFirst isLast : Bool) (t : Text) : Sh (List Segment) := do
  match m.tildes with
  | .nowhere => return plainText m t
  | .atStart => if isFirst then withTilde m isLast t else return plainText m t
  | .afterColons =>
    let parts := Text.splitBy (· == ':') t
    let expanded ← parts.zipIdx.mapM fun (part, i) => do
      let isEnd := i + 1 == parts.length
      if i == 0 && !isFirst then return plainText m part
      else withTilde m (isLast || !isEnd) part
    return (expanded.intersperse (plainText m [':'])).flatten

/-- The name of a parameter that stands for all arguments. -/
def isMany (name : Text) : Bool := name == ['@'] || name == ['*']

/-- The value of a parameter among segments. -/
def inserting (m : Manner) (inQuotes : Bool) (name value : Text) : Sh (List Segment) := do
  let arguments := (← get).arguments
  if m.isSplit && isMany name && !inQuotes then return [.split arguments]
  else if m.isSplit && name == ['@'] then
    return if arguments.isEmpty then [] else [.apart arguments]
  else return inserted m inQuotes value

/-- Whether a value that is there counts as empty. -/
def isBlank (m : Manner) (name value : Text) : Sh Bool := do
  if isMany name && m.isSplit then
    return (← get).arguments.length ≤ 1 && value.isEmpty
  else return value.isEmpty

/-- Complain about a value that is missing. -/
def failMissing {α : Type} (name : Text) (orEmpty : Bool) (message : Text) : Sh α :=
  let standard := "parameter not set".toList ++ (if orEmpty then " or null".toList else [])
  fail (name ++ ": ".toList ++ (if message.isEmpty then standard else message))

/-- The value of an expression. -/
def arithmetic (expression : Text) : Sh Text := do
  let bindings := (← get).bindings
  let value (name : Text) : Text :=
    ((bindings.find? (·.1 == name)).bind (·.2.value?)).getD []
  match Arithmetic.evaluate value expression with
  | .error (.malformed why) =>
    fail ("arithmetic expression: ".toList ++ why.toList ++ ": \"".toList ++ expression ++ ['"'])
  | .error (.noNumber word) => failNumber word
  | .ok (n, assigned) => do
    for (name, k) in assigned do assign name (Text.decimalInt k)
    return Text.decimalInt n

/-! ### Words -/

section
variable (run : Command → Sh Text)

mutual
/-- What a piece stands for. -/
def expandPiece (m : Manner) (isFirst isLast : Bool) : Piece → Sh (List Segment)
  | .plain t => withTildes m isFirst isLast t
  | .quoted t => return [.fixed (marked true t)]
  | .mark => return [.fixed []]
  | .parameter inQuotes name use => expandUse m inQuotes name use
  | .output inQuotes c => do
    let t := (← run c).filter (· != '\x00')
    return inserted m inQuotes (t.reverse.dropWhile (· == '\n')).reverse
  | .arithmetic inQuotes expression => do
    let t := unmarked (flattened (← expandPieces .quoted true expression))
    return inserted m inQuotes (← arithmetic t)
  | .malformed => fail "Bad substitution".toList

/-- What is made of a parameter. -/
def expandUse (m : Manner) (inQuotes : Bool) (name : Text) : Use → Sh (List Segment)
  | .whole => do
    match ← parameter? name with
    | some value => inserting m inQuotes name value
    | none =>
      if ← hasOption 'u' then failMissing name false []
      return inserted m inQuotes []
  | .length => do
    match ← parameter? name with
    | some value => return inserted m inQuotes (Text.decimal value.length)
    | none =>
      if ← hasOption 'u' then failMissing name false []
      return inserted m inQuotes ['0']
  | .otherwise how orEmpty word => do
    let value? ← parameter? name
    let isMissing ←
      match value? with
      | none => pure true
      | some value => if orEmpty then isBlank m name value else pure false
    let value := value?.getD []
    match how with
    | .useWord =>
      if isMissing then expandPieces (m.within inQuotes) true word
      else inserting m inQuotes name value
    | .replaceValue =>
      if isMissing then return inserted m inQuotes []
      else expandPieces (m.within inQuotes) true word
    | .assignWord =>
      if isMissing then
        let t := unmarked (flattened (← expandPieces .single true word))
        if !isName name then fail (name ++ ": bad variable name".toList)
        assign name t
        return inserted m inQuotes t
      else inserting m inQuotes name value
    | .complain =>
      if isMissing then
        let t := unmarked (flattened (← expandPieces .single true word))
        failMissing name orEmpty t
      else inserting m inQuotes name value
  | .trim atEnd longest pattern => do
    match ← parameter? name with
    | some value =>
      let p := flattened (← expandPieces .single true pattern)
      return inserted m inQuotes (trimPattern atEnd longest p value)
    | none =>
      if ← hasOption 'u' then failMissing name false []
      return inserted m inQuotes []

/-- What pieces stand for. -/
def expandPieces (m : Manner) (isFirst : Bool) : List Piece → Sh (List Segment)
  | [] => return []
  | p :: w => do
    let segments ← expandPiece m isFirst w.isEmpty p
    return segments ++ (← expandPieces m false w)
end

/-- The text of a word that is not split. -/
def expandText (m : Manner) (w : Word) : Sh Text :=
  return unmarked (flattened (← expandPieces run m true w))

/-- The pattern that a word is. -/
def expandPattern (w : Word) : Sh (List Mark) :=
  return flattened (← expandPieces run .single true w)

end

/-! ### Paths -/

/-- Whether a part of a path is a pattern. -/
def isWild : List Mark → Bool
  | [] => false
  | m :: p =>
    if m.isBare '\\' then
      match p with
      | [] => false
      | _ :: p => isWild p
    else m.isBare '*' || m.isBare '?' || (m.isBare '[' && closes (p.drop 1)) || isWild p
where
  /-- Whether there is a closing bracket. -/
  closes : List Mark → Bool
    | [] => false
    | m :: p => m.isBare ']' || closes p

/-- The text that a pattern without wild characters matches. -/
def literalText : List Mark → Text
  | [] => []
  | m :: p =>
    if m.isBare '\\' then
      match p with
      | [] => ['\\']
      | m :: p => m.char :: literalText p
    else m.char :: literalText p

/-- The parts of a path. -/
def pathParts (p : List Mark) : List (List Mark) :=
  let rest := p.dropWhile (·.char != '/')
  let first := p.take (p.length - rest.length)
  match rest with
  | [] => [first]
  | _ :: rest' => if rest'.length < p.length then first :: pathParts rest' else [first]
termination_by p.length

/-- The names in a directory that a pattern matches.  Names that begin with a period are matched
only by a pattern that does. -/
def matching (directory : Text) (p : List Mark) : Sh (List Text) := do
  match ← call (.list (if directory.isEmpty then ['.'] else directory)) with
  | .error _ => return []
  | .ok names =>
    let showsHidden := (literalText (p.take 2)).head? == some '.'
    let names := if showsHidden then ['.'] :: ['.', '.'] :: names else names
    return names.filter fun name =>
      (showsHidden || name.head? != some '.') && patternMatches p name

/-- The paths that begin with a path and go on as parts say. -/
def pathsFrom (start : Text) : List (List Mark) → Sh (List Text)
  | [] => return []
  | parts => do
    let literal := parts.takeWhile (!isWild ·)
    let prefix_ := start ++ Text.joinWith ['/'] (literal.map literalText)
    match _h : parts.drop literal.length with
    | [] =>
      match ← call (.facts prefix_) with
      | .ok _ => return [prefix_]
      | .error _ => return []
    | p :: rest =>
      let directory := if literal.isEmpty then start else prefix_ ++ ['/']
      let names ← matching directory p
      if rest.isEmpty then return names.map (directory ++ ·)
      else
        let paths ← names.mapM fun name => pathsFrom (directory ++ name ++ ['/']) rest
        return paths.flatten
termination_by parts => parts.length
decreasing_by
  have := congrArg List.length _h
  simp at this ⊢
  omega

/-- The paths that a field matches, or its text if there are none. -/
def paths (field : List Mark) : Sh (List Text) := do
  if !isWild field || (← hasOption 'f') then return [unmarked field]
  let found ← pathsFrom [] (pathParts field)
  if found.isEmpty then return [unmarked field]
  else return Text.sorted found

/-- The arguments that a word becomes. -/
def expandFields (run : Command → Sh Text) (w : Word) : Sh (List Text) := do
  match w.bare? with
  | some t =>
    if t.any "~*?[\\".toList.contains then full
    else return [t]
  | none => full
where
  full : Sh (List Text) := do
    let segments ← expandPieces run .argument true w
    let fields := split (← separators) none (segments.map Segment.region)
    return (← fields.mapM paths).flatten

/-- The arguments that words become. -/
def expandWords (run : Command → Sh Text) (words : List Word) : Sh (List Text) :=
  return (← words.mapM (expandFields run)).flatten

end RuleSets.Shell.Sh
