import RuleSets.Utility.Files

/-!
# Differences

The lines that have to be taken out of a file and put into it to get another file, as few as
possible.
-/

namespace RuleSets.Utility

namespace Difference

/-- A change: where it begins in both files, and how many lines go and come. -/
structure Change where
  first : Nat
  second : Nat
  gone : Nat
  come : Nat

/-- The longest common parts of all ends of two texts, as rows of a table.  The entry in row `i` and
column `j` belongs to the lines from `i` and from `j` on. -/
def table (xs ys : Array Text) : Array (Array Nat) :=
  let rows := (List.range xs.size).foldl (fun (rows : List (Array Nat)) k =>
    let i := xs.size - 1 - k
    let below := rows.headD #[]
    let row := (List.range ys.size).foldl (fun (row : List Nat) k =>
      let j := ys.size - 1 - k
      let n := if xs[i]? == ys[j]? then below.getD (j + 1) 0 + 1
        else max (below.getD j 0) (row.headD 0)
      n :: row) [0]
    row.toArray :: rows) [Array.replicate (ys.size + 1) 0]
  rows.toArray

/-- The changes from two places on; lines that are the same are kept where that costs nothing. -/
def walk (xs ys : Array Text) (lengths : Array (Array Nat)) : Nat → Nat → Nat → List (Bool × Nat × Nat)
  | 0, _, _ => []
  | n + 1, i, j =>
    let at_ (i j : Nat) : Nat := (lengths.getD i #[]).getD j 0
    if i < xs.size && j < ys.size && xs[i]? == ys[j]? then walk xs ys lengths n (i + 1) (j + 1)
    else if i < xs.size && (ys.size ≤ j || at_ i (j + 1) ≤ at_ (i + 1) j) then
      (true, i, j) :: walk xs ys lengths n (i + 1) j
    else if j < ys.size then (false, i, j) :: walk xs ys lengths n i (j + 1)
    else []

/-- Put single lines that go or come together where they touch. -/
def grouped : List (Bool × Nat × Nat) → List Change
  | [] => []
  | (goes, i, j) :: rest =>
    let one : Change := ⟨i, j, if goes then 1 else 0, if goes then 0 else 1⟩
    match grouped rest with
    | c :: cs =>
      if c.first == i + one.gone && c.second == j + one.come then
        { one with gone := one.gone + c.gone, come := one.come + c.come } :: cs
      else one :: c :: cs
    | [] => [one]

/-- The changes that make one list of lines of another. -/
def changes (xs ys : List Text) : List Change :=
  let same := ((xs.zip ys).takeWhile fun (x, y) => x == y).length
  let (xs, ys) := (xs.drop same, ys.drop same)
  let sameAtEnd := ((xs.reverse.zip ys.reverse).takeWhile fun (x, y) => x == y).length
  let xs := (xs.take (xs.length - sameAtEnd)).toArray
  let ys := (ys.take (ys.length - sameAtEnd)).toArray
  (grouped (walk xs ys (table xs ys) (xs.size + ys.size) 0 0)).map fun c =>
    { c with first := c.first + same, second := c.second + same }

/-- A line with a mark before it; the last one may lack its end. -/
def shown (mark line : Text) : Text :=
  match Text.beforeSuffix? ['\n'] line with
  | some _ => mark ++ line
  | none => mark ++ line ++ "\n\\ No newline at end of file\n".toList

/-- The numbers of some lines. -/
def numbers (first count : Nat) : Text :=
  if count = 0 then Text.decimal first
  else if count = 1 then Text.decimal (first + 1)
  else Text.decimal (first + 1) ++ ',' :: Text.decimal (first + count)

/-- A change as it is usually shown. -/
def plain (xs ys : List Text) (c : Change) : Text :=
  let letter := if c.gone = 0 then 'a' else if c.come = 0 then 'd' else 'c'
  let gone := ((xs.drop c.first).take c.gone).flatMap (shown ['<', ' '])
  let come := ((ys.drop c.second).take c.come).flatMap (shown ['>', ' '])
  numbers c.first c.gone ++ letter :: numbers c.second c.come ++ '\n' :: gone ++
    (if letter == 'c' then "---\n".toList else []) ++ come

/-- Changes that are near to each other, where some lines around them are shown. -/
def neighbours (around : Nat) : List Change → List (List Change)
  | [] => []
  | c :: cs =>
    match neighbours around cs with
    | (d :: ds) :: groups =>
      if d.first ≤ c.first + c.gone + 2 * around then (c :: d :: ds) :: groups
      else [c] :: (d :: ds) :: groups
    | groups => [c] :: groups

/-- The lines of changes and around them. -/
def context (xs ys : List Text) : Nat → List Change → Nat → Text
  | place, [], stop => ((xs.drop place).take (stop - place)).flatMap (shown [' '])
  | place, c :: cs, stop =>
    ((xs.drop place).take (c.first - place)).flatMap (shown [' ']) ++
      ((xs.drop c.first).take c.gone).flatMap (shown ['-']) ++
      ((ys.drop c.second).take c.come).flatMap (shown ['+']) ++
      context xs ys (c.first + c.gone) cs stop

/-- Changes with lines around them. -/
def unified (around : Nat) (xs ys : List Text) (group : List Change) : Text :=
  match group, group.getLast? with
  | first :: _, some last =>
    let before := min around (min first.first first.second)
    let (start, start') := (first.first - before, first.second - before)
    let stop := min xs.length (last.first + last.gone + around)
    let stop' := min ys.length (last.second + last.come + around)
    let range (a b : Nat) : Text :=
      if b = a then Text.decimal a ++ ",0".toList
      else if b = a + 1 then Text.decimal b
      else Text.decimal (a + 1) ++ ',' :: Text.decimal (b - a)
    "@@ -".toList ++ range start stop ++ " +".toList ++ range start' stop' ++ " @@\n".toList ++
      context xs ys start group stop
  | _, _ => []

end Difference

namespace Tool

/-- How files are compared. -/
structure DiffMode where
  options : Arguments
  around? : Option Nat
  labels : List Text

/-- A line as it is compared. -/
def DiffMode.normal (m : DiffMode) (line : Text) : Text :=
  let line := if m.options.has 'w' then line.filter (!Text.isSpace ·)
    else if m.options.has 'b' then squeezed line
    else line
  if m.options.has 'i' then line.map Char.toLower else line
where
  squeezed (line : Text) : Text :=
    let words := (Text.splitBy Text.isSpace line).filter (!·.isEmpty)
    let joined := Text.joinWith [' '] words
    if line.head?.any Text.isSpace && !words.isEmpty then ' ' :: joined else joined

/-- Complain, and end with the status for trouble. -/
def diffTrouble (t : Text) : Tool Unit := do
  flush
  warn t
  setStatus 2

/-- Compare two files, and show what is different. -/
def diffFiles (m : DiffMode) (title : Text) (x y : Text) (isNewFile : Bool) : Tool Unit := do
  let contents (path : Text) : Tool (Option Text) := do
    match ← openInput path with
    | .error e =>
      if isNewFile && e == .notFound then return some []
      diffTrouble (path ++ ": ".toList ++ reason e)
      return none
    | .ok fd =>
      let (t, e?) ← readAll fd
      closeInput fd
      match e? with
      | some e =>
        diffTrouble (path ++ ": ".toList ++ reason e)
        return none
      | none => return some t
  match ← contents x, ← contents y with
  | some s, some t =>
    let (xs, ys) := (wholeLines s, wholeLines t)
    let cs := if s == t then [] else Difference.changes (xs.map m.normal) (ys.map m.normal)
    if cs.isEmpty then
      if m.options.has 's' then
        printLine ("Files ".toList ++ x ++ " and ".toList ++ y ++ " are identical".toList)
    else
      if (← get).status ≠ 2 then setStatus 1
      let isBinary := (s.take 65536).contains '\x00' || (t.take 65536).contains '\x00'
      if m.options.has 'q' then
        printLine ("Files ".toList ++ x ++ " and ".toList ++ y ++ " differ".toList)
      else if isBinary && !m.options.has 'a' then
        printLine ("Binary files ".toList ++ x ++ " and ".toList ++ y ++ " differ".toList)
      else
        print title
        match m.around? with
        | some around =>
          let label (i : Nat) (path : Text) : Text :=
            (m.labels[i]?).getD (path ++ "\t1970-01-01 00:00:00.000000000 +0000".toList)
          printLine ("--- ".toList ++ label 0 x)
          printLine ("+++ ".toList ++ label 1 y)
          for group in Difference.neighbours around cs do
            print (Difference.unified around xs ys group)
        | none => for c in cs do print (Difference.plain xs ys c)
  | _, _ => return

/-- Compare two directories. -/
def diffTrees (m : DiffMode) (given : Text) : Nat → Text → Text → Tool Unit
  | 0, _, _ => return
  | n + 1, x, y => do
    let xs ← namesIn x
    let ys ← namesIn y
    let isNew := m.options.has 'N'
    for name in Text.sorted (xs ++ ys.filter (!xs.contains ·)) do
      let (p, q) := (inside x name, inside y name)
      let only (directory : Text) : Tool Unit := do
        if (← get).status ≠ 2 then setStatus 1
        printLine ("Only in ".toList ++ directory ++ ": ".toList ++ name)
      if !ys.contains name && !isNew then only x
      else if !xs.contains name && !isNew then only y
      else
        match ← isDirectory p, ← isDirectory q with
        | true, true =>
          if m.options.has 'r' then diffTrees m given n p q
          else
            printLine ("Common subdirectories: ".toList ++ p ++ " and ".toList ++ q)
        | false, false =>
          diffFiles m ("diff ".toList ++ given ++ p ++ ' ' :: q ++ ['\n']) p q isNew
        | isLeft, _ =>
          if (← get).status ≠ 2 then setStatus 1
          let kind (b : Bool) : Text := (if b then "directory" else "regular file").toList
          printLine ("File ".toList ++ p ++ " is a ".toList ++ kind isLeft ++ " while file ".toList ++
            q ++ " is a ".toList ++ kind (!isLeft))

/-- Show how files differ. -/
def diff (all : List Text) : Tool Unit := do
  let complain {α : Type} (t : Text) : Tool α := do
    warn t
    warn ("Try '".toList ++ (← get).name ++ " --help' for more information.".toList)
    quit 2
  let a ← arguments 2 false "0123456789abBdiNqrsuU:wL:" [long "brief" 'q' .nothing,
    long "report-identical-files" 's' .nothing, long "unified" 'u' .perhaps,
    long "recursive" 'r' .nothing, long "ignore-case" 'i' .nothing, long "text" 'a' .nothing,
    long "ignore-space-change" 'b' .nothing, long "ignore-all-space" 'w' .nothing,
    long "new-file" 'N' .nothing, long "label" 'L' .value] all
  let around? : Option Nat :=
    let digits := (a.options.map (·.1)).filter Char.isDigit
    match a.value? 'U', a.value? 'u' with
    | some w, _ => some (Text.valueOf 10 w)
    | none, some w =>
      let w := if w.isEmpty then digits else w
      some (if w.isEmpty then 3 else Text.valueOf 10 w)
    | none, none => none
  let m : DiffMode := ⟨a, around?, (a.options.filter (·.1 == 'L')).map (·.2)⟩
  match a.operands with
  | [] => complain ("missing operand after ".toList ++ quoted ((all.getLast?).getD "diff".toList))
  | [w] => complain ("missing operand after ".toList ++ quoted w)
  | [x, y] =>
    let isX ← if x == ['-'] then pure false else isDirectory x
    let isY ← if y == ['-'] then pure false else isDirectory y
    let given := (all.filter fun w => w.head? == some '-' && w != ['-']).flatMap (· ++ [' '])
    match isX, isY with
    | true, true => diffTrees m given deepestTree x y
    | true, false => diffFiles m [] (inside x (lastName y)) y (a.has 'N')
    | false, true => diffFiles m [] x (inside y (lastName x)) (a.has 'N')
    | false, false => diffFiles m [] x y (a.has 'N')
  | _ :: _ :: extra :: _ => complain ("extra operand ".toList ++ quoted extra)

end Tool
end RuleSets.Utility
