import RuleSets.Shell.Pattern
import RuleSets.Utility.Run

/-!
# Finding files

A condition is decided for everything in a tree of directories; some conditions do something.
-/

namespace RuleSets.Utility

namespace Find

/-- How a number is compared: more, less or just as much. -/
structure Measure where
  sign : Char
  count : Nat

/-- Whether a number is as it should be. -/
def Measure.accepts (m : Measure) (n : Nat) : Bool :=
  match m.sign with
  | '+' => m.count < n
  | '-' => n < m.count
  | _ => n == m.count

/-- A condition on something found. -/
inductive Condition where
  | constant (b : Bool)
  | not (c : Condition)
  | and (a b : Condition)
  | or (a b : Condition)
  | list (a b : Condition)
  | name (pattern : Text) (ignoresCase : Bool)
  | path (pattern : Text) (ignoresCase : Bool)
  | type (letters : Text)
  | size (unit : Nat) (m : Measure)
  | isEmpty
  | isExecutable
  | newer (time : Nat)
  | print (ending : Char)
  | printf (format : Text)
  | delete
  | prune
  | quit
  | execute (words : List Text)
  /-- Run a program for many at once: the number under which they are kept. -/
  | gather (number : Nat) (words : List Text)

/-- Whether a condition does something. -/
def Condition.acts : Condition → Bool
  | not c => c.acts
  | and a b | or a b | list a b => a.acts || b.acts
  | print _ | printf _ | delete | quit | execute _ | gather _ _ => true
  | _ => false

/-- Whether a condition deletes what is found. -/
def Condition.deletes : Condition → Bool
  | not c => c.deletes
  | and a b | or a b | list a b => a.deletes || b.deletes
  | delete => true
  | _ => false

/-- Where the search goes. -/
structure Range where
  least : Nat
  most? : Option Nat
  contentsFirst : Bool

/-- What is left of the arguments, where the search goes, and how many programs are run for many. -/
structure Position where
  rest : List Text
  range : Range
  gathered : Nat

/-- Reading a condition; a complaint ends it. -/
abbrev Reading := StateT Position (ExceptT Text Tool)

/-- A complaint. -/
def fail {α : Type} (complaint : Text) : Reading α := throw complaint

/-- The next argument. -/
def peek : Reading (Option Text) := return (← get).rest.head?

/-- Leave the next argument behind. -/
def skip : Reading Unit := modify fun p => { p with rest := p.rest.drop 1 }

/-- The argument of a predicate. -/
def argument (name : Text) : Reading Text := do
  match ← peek with
  | some w =>
    skip
    return w
  | none => fail ("missing argument to \x60".toList ++ name ++ ['\''])

/-- The number that a predicate must get. -/
def count (name : Text) : Reading Nat := do
  let w ← argument name
  if !w.isEmpty && w.all Char.isDigit then return Text.valueOf 10 w
  else
    fail ("Expected a positive decimal integer argument to ".toList ++ name ++ ", but got ".toList ++
      quoted w)

/-- A number with a sign for how it is compared, and what follows it. -/
def measure? (w : Text) : Option (Measure × Text) :=
  let (sign, digits) : Char × Text :=
    match w with
    | '+' :: t => ('+', t)
    | '-' :: t => ('-', t)
    | t => ('=', t)
  let number := digits.takeWhile Char.isDigit
  if number.isEmpty then none
  else some (⟨sign, Text.valueOf 10 number⟩, digits.drop number.length)

/-- The words of a program up to the end of them, and whether it is run for many at once. -/
def programWords (name : Text) : Nat → List Text → Reading (List Text × Bool)
  | 0, _ => fail ("missing argument to \x60".toList ++ name ++ ['\''])
  | n + 1, words => do
    let w ← argument name
    if w == [';'] then return (words.reverse, false)
    else if w == ['+'] && words.head? == some "\x7b\x7d".toList then
      return ((words.drop 1).reverse, true)
    else programWords name n (w :: words)

/-- A predicate by its name. -/
def predicate (name : Text) : Reading Condition := do
  let option (f : Range → Range) : Reading Condition := do
    modify fun p => { p with range := f p.range }
    return .constant true
  match String.ofList name with
  | "-true" => return .constant true
  | "-false" => return .constant false
  | "-name" => return .name (← argument name) false
  | "-iname" => return .name (← argument name) true
  | "-path" | "-wholename" => return .path (← argument name) false
  | "-ipath" => return .path (← argument name) true
  | "-type" =>
    let letters ← argument name
    match letters.find? fun c => !"bcdpflsD,".toList.contains c with
    | some c => fail ("Unknown argument to -type: ".toList ++ [c])
    | none => return .type letters
  | "-size" =>
    let w ← argument name
    let unit? (t : Text) : Option Nat :=
      match t with
      | [] | ['b'] => some 512
      | ['c'] => some 1
      | ['w'] => some 2
      | ['k'] => some 1024
      | ['M'] => some (Nat.pow 1024 2)
      | ['G'] => some (Nat.pow 1024 3)
      | _ => none
    match measure? w with
    | none => fail ("invalid -size type \x60".toList ++ w.drop (w.length - 1) ++ ['\''])
    | some (m, t) =>
      match unit? t with
      | some unit => return .size unit m
      | none => fail ("invalid -size type \x60".toList ++ t ++ ['\''])
  | "-empty" => return .isEmpty
  | "-executable" => return .isExecutable
  | "-readable" | "-writable" => return .constant true
  | "-newer" =>
    let w ← argument name
    match ← (call (.facts w) : Tool (Except IoError Machine.FileFacts)) with
    | .ok f => return .newer f.changed
    | .error e => fail (quoted w ++ ": ".toList ++ reason e)
  | "-print" => return .print '\n'
  | "-print0" => return .print '\x00'
  | "-printf" => return .printf (← argument name)
  | "-delete" =>
    let _ ← option ({ · with contentsFirst := true })
    return .delete
  | "-prune" => return .prune
  | "-quit" => return .quit
  | "-depth" => option ({ · with contentsFirst := true })
  | "-maxdepth" =>
    let n ← count name
    option ({ · with most? := some n })
  | "-mindepth" =>
    let n ← count name
    option ({ · with least := n })
  | "-mount" | "-xdev" | "-noleaf" | "-follow" => return .constant true
  | "-exec" | "-execdir" =>
    let (words, isForMany) ← programWords name ((← get).rest.length + 1) []
    if isForMany then
      let number := (← get).gathered
      modify fun p => { p with gathered := number + 1 }
      return .gather number words
    else return .execute words
  | _ =>
    if name.head? == some '-' then fail ("unknown predicate \x60".toList ++ name ++ ['\''])
    else fail ("paths must precede expression: \x60".toList ++ name ++ ['\''])

/-- Whether a word is one of some. -/
def isAny (names : List String) (w : Text) : Bool := names.any (·.toList == w)

mutual
/-- Conditions of which the last one counts. -/
def readList : Nat → Reading Condition
  | 0 => fail "invalid expression".toList
  | n + 1 => do
    let a ← readOr n
    if (← peek) == some [','] then
      skip
      return .list a (← readList n)
    else return a

/-- Conditions of which one is enough. -/
def readOr : Nat → Reading Condition
  | 0 => fail "invalid expression".toList
  | n + 1 => do
    let a ← readAnd n
    if (← peek).any (isAny ["-o", "-or"]) then
      skip
      return .or a (← readOr n)
    else return a

/-- Conditions that must all hold. -/
def readAnd : Nat → Reading Condition
  | 0 => fail "invalid expression".toList
  | n + 1 => do
    let a ← readOne n
    match ← peek with
    | none => return a
    | some w =>
      if isAny ["-a", "-and"] w then
        skip
        return .and a (← readAnd n)
      else if isAny ["-o", "-or", ",", ")"] w then return a
      else return .and a (← readAnd n)

/-- One condition. -/
def readOne : Nat → Reading Condition
  | 0 => fail "invalid expression".toList
  | n + 1 => do
    match ← peek with
    | none => fail "invalid expression".toList
    | some w =>
      skip
      if isAny ["!", "-not"] w then
        if (← peek).isNone then fail ("expected an expression after ".toList ++ quoted w)
        return .not (← readOne n)
      else if isAny ["-o", "-or", "-a", "-and"] w then
        fail ("invalid expression; you have used a binary operator ".toList ++ quoted w ++
          " with nothing before it.".toList)
      else if w == ['('] then
        let c ← readList n
        if (← peek) == some [')'] then
          skip
          return c
        else
          fail ("invalid expression; I was expecting to find a ')' somewhere but did not ".toList ++
            "see one.".toList)
      else predicate w
end

/-- A condition that takes up all arguments. -/
def readAll (n : Nat) : Reading Condition := do
  if (← peek).isNone then return .constant true
  let c ← readList n
  match ← peek with
  | some [')'] => fail "you have too many ')'".toList
  | some w => fail ("paths must precede expression: \x60".toList ++ w ++ ['\''])
  | none => return c

/-- Something found. -/
structure Item where
  path : Text
  /-- The operand below which it was found. -/
  root : Text
  depth : Nat
  facts : Machine.FileFacts

/-- The letter for what something is. -/
def letter (k : Machine.FileKind) : Char :=
  match k with
  | .regular => 'f'
  | .directory => 'd'
  | .device => 'c'
  | .pipe => 'p'

/-- A format with what it asks for of something found. -/
def formatted (i : Item) : Nat → Text → Text
  | 0, _ => []
  | _, [] => []
  | n + 1, '%' :: c :: t =>
    let piece : Text :=
      match c with
      | 'p' => i.path
      | 'f' => Tool.lastName i.path
      | 'h' => Tool.parentName i.path
      | 's' => Text.decimal i.facts.size
      | 'd' => Text.decimal i.depth
      | 'y' => [letter i.facts.kind]
      | 'P' => (i.path.drop i.root.length).dropWhile (· == '/')
      | 'H' => i.root
      | 'm' => if i.facts.isExecutable then "755".toList else "644".toList
      | '%' => ['%']
      | c => ['%', c]
    piece ++ formatted i n t
  | n + 1, '\\' :: c :: t =>
    (match c with
    | 'n' => ['\n']
    | 't' => ['\t']
    | '0' => ['\x00']
    | '\\' => ['\\']
    | c => ['\\', c]) ++ formatted i n t
  | n + 1, c :: t => c :: formatted i n t

/-- What a search keeps: what programs are run for, whether the directory at hand is left out, and
whether the search is over. -/
structure Progress where
  gathered : List (Nat × Text)
  isPruned : Bool
  isOver : Bool

/-- Deciding conditions. -/
abbrev Deciding := StateT Progress Tool

/-- Use a tool. -/
def lift {α : Type} (t : Tool α) : Deciding α := StateT.lift t

/-- Whether a pattern matches a text. -/
def isMatch (pattern t : Text) (ignoresCase : Bool) : Bool :=
  let cased (t : Text) : Text := if ignoresCase then t.map Char.toLower else t
  let rec marks : Nat → Text → List Shell.Mark
    | 0, _ => []
    | _, [] => []
    | n + 1, '\\' :: c :: t => ⟨c, true⟩ :: marks n t
    | n + 1, c :: t => ⟨c, false⟩ :: marks n t
  Shell.patternMatches (marks (pattern.length + 1) (cased pattern)) (cased t)

/-- Run a program, and say whether it has ended well. -/
def run (words : List Text) : Tool Bool := do
  let pid ← Tool.start quoted words
  return (← Tool.await pid Tool.patience) == .exited 0

/-- The last name in a path, where the root is called by its slash. -/
def nameOf (path : Text) : Text :=
  let t := (path.reverse.dropWhile (· == '/')).reverse
  if t.isEmpty then path.take 1 else (t.reverse.takeWhile (· != '/')).reverse

/-- Decide a condition. -/
def decide_ (i : Item) : Condition → Deciding Bool
  | .constant b => return b
  | .not c => return !(← decide_ i c)
  | .and a b => do if ← decide_ i a then decide_ i b else return false
  | .or a b => do if ← decide_ i a then return true else decide_ i b
  | .list a b => do
    let _ ← decide_ i a
    decide_ i b
  | .name p ignoresCase => return isMatch p (nameOf i.path) ignoresCase
  | .path p ignoresCase => return isMatch p i.path ignoresCase
  | .type letters => return letters.contains (letter i.facts.kind)
  | .size unit m => return m.accepts ((i.facts.size + (unit - 1)) / unit)
  | .isEmpty => do
    if i.facts.kind == .directory then return (← lift (Tool.namesIn i.path)).isEmpty
    else return i.facts.kind == .regular && i.facts.size == 0
  | .isExecutable => return i.facts.isExecutable
  | .newer time => return time < i.facts.changed
  | .print ending => do
    lift (Tool.print (i.path ++ [ending]))
    return true
  | .printf f => do
    lift (Tool.print (formatted i (f.length + 1) f))
    return true
  | .delete => do
    let edit : Machine.Edit :=
      if i.facts.kind == .directory then .removeDirectory i.path else .remove i.path
    match ← lift (call (.edit edit)) with
    | .ok _ => return true
    | .error e =>
      if i.path == ['.'] then return true
      lift (Tool.fault ("cannot delete ".toList ++ quoted i.path ++ ": ".toList ++ reason e))
      return false
  | .prune => do
    modify ({ · with isPruned := true })
    return true
  | .quit => do
    modify ({ · with isOver := true })
    return true
  | .execute words =>
    lift (run (words.map fun w => Tool.replaced "\x7b\x7d".toList i.path (w.length + 1) w))
  | .gather number _ => do
    modify fun p => { p with gathered := (number, i.path) :: p.gathered }
    return true

/-- Go through something found and all that is below it. -/
def walk (c : Condition) (r : Range) (root : Text) : Nat → Nat → Text → Deciding Unit
  | 0, _, _ => return
  | n + 1, depth, path => do
    if (← get).isOver then return
    match ← lift (call (.facts path)) with
    | .error e => lift (Tool.fault (quoted path ++ ": ".toList ++ reason e))
    | .ok facts =>
      let item : Item := ⟨path, root, depth, facts⟩
      let visit : Deciding Unit := do
        if r.least ≤ depth then
          let _ ← decide_ item c
      let enter : Deciding Unit := do
        if facts.kind == .directory && r.most?.all (depth < ·) then
          for name in ← lift (Tool.namesIn path) do
            walk c r root n (depth + 1) (Tool.inside path name)
      if r.contentsFirst then
        enter
        if !(← get).isOver then visit
      else
        modify ({ · with isPruned := false })
        visit
        if !(← get).isPruned then enter

/-- The programs that are run for many at once. -/
def Condition.gatherings : Condition → List (Nat × List Text)
  | not c => c.gatherings
  | and a b | or a b | list a b => a.gatherings ++ b.gatherings
  | gather number words => [(number, words)]
  | _ => []

end Find

namespace Tool

/-- Find files. -/
def find (all : List Text) : Tool Unit := do
  let all := all.dropWhile fun w => w == ['-', 'L'] || w == ['-', 'H'] || w == ['-', 'P']
  let isPath (w : Text) : Bool :=
    !(match w with
      | '-' :: _ :: _ => true
      | ['('] | ['!'] => true
      | _ => false)
  let roots := all.takeWhile isPath
  let rest := all.drop roots.length
  let start : Find.Position := ⟨rest, ⟨0, none, false⟩, 0⟩
  match ← ((Find.readAll (8 * rest.length + 16)).run start).run with
  | .error complaint => die 1 complaint
  | .ok (c, p) =>
    let c := if c.acts then c else .and c (.print '\n')
    let search : Find.Deciding Unit := do
      for root in if roots.isEmpty then [['.']] else roots do
        Find.walk c p.range root deepestTree 0 root
    let (_, progress) ← search.run ⟨[], false, false⟩
    for (number, words) in c.gatherings do
      let paths := (progress.gathered.filter (·.1 == number)).reverse.map (·.2)
      if !paths.isEmpty then
        if !(← Find.run (words ++ paths)) then setStatus 1

end Tool
end RuleSets.Utility
