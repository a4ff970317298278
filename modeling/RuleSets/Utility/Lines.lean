import RuleSets.Shell.Format
import RuleSets.Utility.Sort

/-!
# Lines and characters

Tools that take lines apart, put them together, or replace characters.
-/

namespace RuleSets.Utility.Tool

/-! ### Cutting -/

/-- The ranges of a list like `2,4-6,8-`; a range without an end has none. -/
def ranges? (t : Text) : Option (List (Nat × Option Nat)) :=
  (Text.splitBy (fun c => c == ',' || c == ' ') t).mapM fun part =>
    let first := part.takeWhile Char.isDigit
    let isNumber (t : Text) : Bool := !t.isEmpty && t.all Char.isDigit
    match part.drop first.length with
    | [] => if isNumber first then some (Text.valueOf 10 first, some (Text.valueOf 10 first)) else none
    | ['-'] => if isNumber first then some (Text.valueOf 10 first, none) else none
    | '-' :: last =>
      if isNumber last then
        some (if first.isEmpty then 1 else Text.valueOf 10 first, some (Text.valueOf 10 last))
      else none
    | _ => none

/-- Print parts of lines. -/
def cut (all : List Text) : Tool Unit := do
  let a ← arguments 1 false "b:c:d:f:nsz" [long "bytes" 'b' .value, long "characters" 'c' .value,
    long "delimiter" 'd' .value, long "fields" 'f' .value, long "only-delimited" 's' .nothing,
    long "complement" 'C' .nothing, long "output-delimiter" 'O' .value,
    long "zero-terminated" 'z' .nothing] all
  let kinds := (a.options.filter fun o => "bcf".toList.contains o.1)
  let ending := if a.has 'z' then '\x00' else '\n'
  match kinds with
  | [] => misuse 1 "you must specify a list of bytes, characters, or fields".toList
  | _ :: _ :: _ => misuse 1 "only one list may be specified".toList
  | [(kind, list)] =>
    let isField := kind == 'f'
    if a.has 'd' && !isField then
      misuse 1 "an input delimiter may be specified only when operating on fields".toList
    let delimiter ←
      match a.value? 'd' with
      | none => pure '\t'
      | some [] => pure '\x00'
      | some [c] => pure c
      | some _ => misuse 1 "the delimiter must be a single character".toList
    let what := if isField then "field" else "byte/character"
    let ranges ←
      match ranges? list with
      | none => misuse 1 ((if isField then "invalid field value ".toList
          else "invalid byte/character position ".toList) ++ quoted list)
      | some rs => pure rs
    for (m, n?) in ranges do
      if m = 0 then
        misuse 1 ((if isField then "fields" else "byte/character positions").toList ++
          " are numbered from 1".toList)
      if n?.any (· < m) then misuse 1 ("invalid decreasing range".toList)
    let isIn (i : Nat) : Bool := ranges.any fun (m, n?) => m ≤ i && n?.all (i ≤ ·)
    let isTaken (i : Nat) : Bool := isIn i != a.has 'C'
    let _ := what
    let line (t : Text) : Option Text :=
      if isField then
        let fields := Text.splitBy (· == delimiter) t
        if fields.length ≤ 1 then (if a.has 's' then none else some t)
        else
          let chosen := (fields.zipIdx.filter fun (_, i) => isTaken (i + 1)).map (·.1)
          some (Text.joinWith ((a.value? 'O').getD [delimiter]) chosen)
      else
        match a.value? 'O' with
        | none => some ((t.zipIdx.filter fun (_, i) => isTaken (i + 1)).map (·.1))
        | some between => some (runs between isTaken 1 false true t)
    eachInput a.operands fun _ fd => do
      let (_, feed) ← eachLine ending (fun _ l => do
        match line l.text with
        | some t => print (t ++ [ending])
        | none => pure ()
        return ((), true)) patience (Feed.start fd) ()
      return feed.error?
where
  /-- The characters at the chosen places, with a text between two runs of them. -/
  runs (between : Text) (isTaken : Nat → Bool) (i : Nat) (inRun isFirst : Bool) : Text → Text
    | [] => []
    | c :: t =>
      if isTaken i then
        (if inRun || isFirst then [] else between) ++ c :: runs between isTaken (i + 1) true false t
      else runs between isTaken (i + 1) false isFirst t

/-! ### Replacing characters -/

/-- A part of a set of characters. -/
inductive SetPart where
  | characters (cs : Text)
  /-- A character as often as needed or as said. -/
  | repeated (c : Char) (count? : Option Nat)
  | class_ (name : Text) (cs : Text)

/-- All bytes. -/
def allBytes : Text := (List.range 256).map Char.ofNat

/-- The character at the start of a set, of which a backslash takes the meaning, whether it was
escaped, and what follows it. -/
def setCharacter? (t : Text) : Option (Char × Bool × Text) :=
  match t with
  | [] => none
  | '\\' :: c :: rest =>
    let named? : Option Char :=
      match c with
      | 'a' => some '\x07'
      | 'b' => some '\x08'
      | 'f' => some '\x0c'
      | 'n' => some '\n'
      | 'r' => some '\r'
      | 't' => some '\t'
      | 'v' => some '\x0b'
      | '\\' => some '\\'
      | _ => none
    match named? with
    | some d => some (d, true, rest)
    | none =>
      let digits := ((c :: rest).take 3).takeWhile (Text.isDigitOf 8)
      let digits := if 255 < Text.valueOf 8 digits then digits.take 2 else digits
      if digits.isEmpty then some (c, true, rest)
      else some (Char.ofNat (Text.valueOf 8 digits), true, (c :: rest).drop digits.length)
  | c :: rest => some (c, false, rest)

/-- The parts of a set of characters. -/
def setParts : Nat → Text → Tool (List SetPart)
  | 0, _ => return []
  | n + 1, t => do
    match bracketed? t with
    | some (part, rest) => return part :: (← setParts n rest)
    | none =>
      match setCharacter? t with
      | none => return []
      | some (c, _, '-' :: rest) =>
        match setCharacter? rest with
        | none => return .characters [c, '-'] :: (← setParts n [])
        | some (d, _, rest') =>
          if d < c then
            die 1 ("range-endpoints of ".toList ++
              quoted (t.take (t.length - rest'.length)) ++
              " are in reverse collating sequence order".toList)
          else
            let count := d.toNat - c.toNat + 1
            let cs := (List.range count).map fun i => Char.ofNat (c.toNat + i)
            return .characters cs :: (← setParts n rest')
      | some (c, _, rest) => return .characters [c] :: (← setParts n rest)
where
  /-- A class, an equivalence or a repetition in brackets. -/
  bracketed? (t : Text) : Option (SetPart × Text) :=
    match t with
    | '[' :: ':' :: rest =>
      let name := rest.takeWhile Char.isAlpha
      match rest.drop name.length, Text.characterClass? name with
      | ':' :: ']' :: rest, some p => some (.class_ name (allBytes.filter p), rest)
      | _, _ => none
    | '[' :: '=' :: c :: '=' :: ']' :: rest => some (.characters [c], rest)
    | '[' :: rest =>
      match setCharacter? rest with
      | some (c, _, '*' :: rest) =>
        let digits := rest.takeWhile Char.isDigit
        match rest.drop digits.length with
        | ']' :: rest =>
          let n := Text.valueOf (if digits.head? == some '0' then 8 else 10) digits
          some (.repeated c (if digits.isEmpty || n = 0 then none else some n), rest)
        | _ => none
      | _ => none
    | _ => none

/-- The characters of a set, of which at least some number are wanted. -/
def expandSet (parts : List SetPart) (wanted : Nat) : Text :=
  let fixed := parts.foldl (fun n part =>
    match part with
    | .characters cs | .class_ _ cs => n + cs.length
    | .repeated _ count? => n + count?.getD 0) 0
  parts.flatMap fun
    | .characters cs | .class_ _ cs => cs
    | .repeated c count? => List.replicate (count?.getD (wanted - fixed)) c

/-- Replace, drop or squeeze characters. -/
def tr (all : List Text) : Tool Unit := do
  let a ← arguments 1 true "cCdst" [long "complement" 'c' .nothing, long "delete" 'd' .nothing,
    long "squeeze-repeats" 's' .nothing, long "truncate-set1" 't' .nothing] all
  let (complements, deletes, squeezes) := (a.has 'c' || a.has 'C', a.has 'd', a.has 's')
  match a.operands with
  | [] => misuse 1 "missing operand".toList
  | first :: others =>
    let needsTwo := deletes == squeezes
    if others.isEmpty && needsTwo then
      warn ("missing operand after ".toList ++ quoted first)
      report (if squeezes then
        "Two strings must be given when both deleting and squeezing repeats.".toList
        else "Two strings must be given when translating.".toList)
      report ("Try '".toList ++ (← get).name ++ " --help' for more information.".toList)
      quit 1
    if deletes && !squeezes then
      match others with
      | extra :: _ =>
        warn ("extra operand ".toList ++ quoted extra)
        report "Only one string may be given when deleting without squeezing repeats.".toList
        report ("Try '".toList ++ (← get).name ++ " --help' for more information.".toList)
        quit 1
      | [] => pure ()
    match others.drop 1 with
    | extra :: _ => extraOperand extra
    | [] => pure ()
    let parts ← setParts (first.length + 1) first
    let isOpen (p : SetPart) : Bool :=
      match p with
      | .repeated _ none => true
      | _ => false
    if parts.any isOpen then die 1 "the [c*] repeat construct may not appear in string1".toList
    let set1 := expandSet parts 0
    let set1 := if complements then allBytes.filter (!set1.contains ·) else set1
    let parts2 ← setParts ((others.headD []).length + 1) (others.headD [])
    let maps := !deletes && !others.isEmpty
    if maps && (others.headD []).isEmpty && !a.has 't' then
      die 1 "when not truncating set1, string2 must be non-empty".toList
    let otherClass := parts2.any fun
      | .class_ name _ => name != "upper".toList && name != "lower".toList
      | _ => false
    if maps && otherClass then
      die 1 ("when translating, the only character classes that may appear in\n" ++
        "string2 are 'upper' and 'lower'").toList
    let set2 := expandSet parts2 set1.length
    let set1' := if a.has 't' then set1.take set2.length else set1
    let set2' := set2 ++ List.replicate (set1'.length - set2.length) (set2.getLast?.getD ' ')
    let table : Array Char := (set1'.zip set2').foldl
      (fun t (c, d) => t.setIfInBounds c.toNat d) (Array.ofFn fun i : Fin 256 => Char.ofNat i)
    let image (c : Char) : Char := if maps then table.getD c.toNat c else c
    let isIn (s : Text) : Array Bool :=
      s.foldl (fun t c => t.setIfInBounds c.toNat true) (Array.replicate 256 false)
    let deleted := isIn (if deletes then set1 else [])
    let squeezed := isIn (if !squeezes then [] else if others.isEmpty then set1 else set2)
    let (_, e?) ← eachPiece 0 (fun (last? : Option Char) t => do
      let (last?, acc) := t.foldl (fun (last?, acc) c =>
        if deleted.getD c.toNat false then (last?, acc)
        else
          let d := image c
          if squeezed.getD d.toNat false && last? == some d then (last?, acc)
          else (some d, d :: acc)) (last?, ([] : Text))
      print acc.reverse
      return last?) patience none
    match e? with
    | some e => die 1 ("read error: ".toList ++ reason e)
    | none => return

/-! ### Joining and numbering lines -/

/-- The list of delimiters that a text spells. -/
def delimiters : Text → List Text
  | [] => []
  | '\\' :: c :: t =>
    (match c with
    | 'n' => ['\n']
    | 't' => ['\t']
    | '0' => []
    | c => [c]) :: delimiters t
  | c :: t => [c] :: delimiters t

/-- Put lines side by side. -/
def paste (all : List Text) : Tool Unit := do
  let a ← arguments 1 false "d:sz" [long "delimiters" 'd' .value, long "serial" 's' .nothing] all
  let ds := delimiters ((a.value? 'd').getD ['\t'])
  let ds := if ds.isEmpty then [[]] else ds
  let delimiter (i : Nat) : Text := (ds[i % ds.length]?).getD []
  let mut columns := []
  let words := orInput a.operands
  let shares := (words.filter (· == ['-'])).length
  let mut taken := 0
  for word in words do
    if word == ['-'] && 0 < taken then
      columns := columns ++ [[]]
      continue
    if word == ['-'] then taken := columns.length + 1
    match ← openInput word with
    | .error e => die 1 (quotedIfNeeded word ++ ": ".toList ++ reason e)
    | .ok fd =>
      let (t, e?) ← readAll fd
      match e? with
      | some e => cannotRead word e
      | none => pure ()
      columns := columns ++ [linesOf '\n' t]
      closeInput fd
  let joined (ts : List Text) : Text :=
    (ts.zipIdx.map fun (t, i) => (if i = 0 then [] else delimiter (i - 1)) ++ t).flatten
  if a.has 's' then for lines in columns do printLine (joined lines)
  else
    let shared := (columns[taken - 1]?).getD []
    let share (i : Nat) : List Text :=
      (shared.zipIdx.filter fun (_, k) => k % shares == i).map (·.1)
    let dealt := (words.zip columns).zipIdx.map fun ((word, lines), i) =>
      if word == ['-'] && 1 < shares then share ((words.take i).count ['-']) else lines
    let height := dealt.foldl (fun n ls => max n ls.length) 0
    for i in List.range height do
      printLine (joined (dealt.map fun ls => (ls[i]?).getD []))

/-- Compare the lines of two files in order. -/
def comm (all : List Text) : Tool Unit := do
  let a ← arguments 1 false "123z" [] all
  match a.operands with
  | [x, y] =>
    let lines (word : Text) : Tool (List Text) := do
      match ← openInput word with
      | .error e => die 1 (quotedIfNeeded word ++ ": ".toList ++ reason e)
      | .ok fd =>
        let (t, e?) ← readAll fd
        closeInput fd
        match e? with
        | some e => die 1 (quotedIfNeeded word ++ ": ".toList ++ reason e)
        | none => return linesOf '\n' t
    let xs ← lines x
    let ys ← lines y
    let column (i : Nat) (line : Text) : Tool Unit := do
      let digit := Char.ofNat (48 + i)
      if !a.has digit then
        let before := (List.range (i - 1)).filter fun k => !a.has (Char.ofNat (49 + k))
        printLine (List.replicate before.length '\t' ++ line)
    let hasPairs := xs == ys
    let warnings (number : Nat) (lines : List Text) : Tool Bool := do
      let isBad := (lines.zip (lines.drop 1)).any fun (a, b) => Text.order a b == .gt
      if isBad && !hasPairs then
        fault ("file ".toList ++ Text.decimal number ++ " is not in sorted order".toList)
      return isBad && !hasPairs
    let rec merge : Nat → List Text → List Text → Tool Unit
      | 0, _, _ => return
      | _, [], ys => for y in ys do column 2 y
      | _, xs, [] => for x in xs do column 1 x
      | n + 1, x :: xs, y :: ys => do
        match Text.order x y with
        | .eq =>
          column 3 x
          merge n xs ys
        | .lt =>
          column 1 x
          merge n xs (y :: ys)
        | .gt =>
          column 2 y
          merge n (x :: xs) ys
    merge (xs.length + ys.length + 1) xs ys
    let isBadX ← warnings 1 xs
    let isBadY ← warnings 2 ys
    if isBadX || isBadY then die 1 "input is not in sorted order".toList
  | _ :: _ :: extra :: _ => extraOperand extra
  | operands => missingOperand operands

/-- Number lines. -/
def nl (all : List Text) : Tool Unit := do
  let a ← arguments 1 false "b:s:w:n:v:i:" [] all
  let number (c : Char) (standard : Nat) : Nat :=
    match a.value? c with
    | some t => Text.valueOf 10 t
    | none => standard
  let width := number 'w' 6
  let separator := (a.value? 's').getD ['\t']
  let style := (a.value? 'b').getD ['t']
  let form (n : Nat) : Text :=
    let t := Text.decimal n
    match (a.value? 'n').map String.ofList with
    | some "ln" => t ++ List.replicate (width - t.length) ' '
    | some "rz" => List.replicate (width - t.length) '0' ++ t
    | _ => rightAligned width t
  let counter ← do
    let mut k := number 'v' 1
    for word in orInput a.operands do
      match ← openInput word with
      | .error e => cannotRead word e
      | .ok fd =>
        let (k', feed) ← eachLine '\n' (fun k l => do
          if style == ['a'] || (style == ['t'] && !l.text.isEmpty) then
            printLine (form k ++ separator ++ l.text)
            return (k + number 'i' 1, true)
          else
            printLine (List.replicate (width + separator.length) ' ' ++ l.text)
            return (k, true)) patience (Feed.start fd) k
        k := k'
        match feed.error? with
        | some e => cannotRead word e
        | none => pure ()
        closeInput fd
    pure k
  let _ := counter

/-- Print lines from the last to the first. -/
def tac (all : List Text) : Tool Unit := do
  let a ← arguments 1 false "bs:" [long "separator" 's' .value] all
  for word in orInput a.operands do
    match ← openInput word with
    | .error e =>
      fault ("failed to open ".toList ++ quoted word ++ " for reading: ".toList ++ reason e)
    | .ok fd =>
      let (t, e?) ← readAll fd
      match e? with
      | some e =>
        let e := if e == .isADirectory then .invalidArgument else e
        fault (quotedIfNeeded word ++ ": read error: ".toList ++ reason e)
      | none => print ((wholeLines t).reverse).flatten
      closeInput fd

/-- Print every line from its end to its start. -/
def rev (all : List Text) : Tool Unit := do
  let a ← arguments 1 false "" [] all
  for word in orInput a.operands do
    match ← openInput word with
    | .error e => fault ("cannot open ".toList ++ word ++ ": ".toList ++ reason e)
    | .ok fd =>
      let _ ← eachLine '\n' (fun _ l => do
        print (l.text.reverse ++ if l.isEnded then ['\n'] else [])
        return ((), true)) patience (Feed.start fd) ()
      closeInput fd

/-- Break lines that are too long. -/
def fold (all : List Text) : Tool Unit := do
  let a ← arguments 1 false "bsw:" [long "width" 'w' .value, long "bytes" 'b' .nothing,
    long "spaces" 's' .nothing] (shorthand all)
  let width := max 1 (((a.value? 'w').map (Text.valueOf 10)).getD 80)
  eachInput a.operands fun _ fd => do
    let (_, feed) ← eachLine '\n' (fun _ l => do
      print (Text.joinWith ['\n'] (broken (a.has 's') width (l.text.length + 1) l.text) ++
        if l.isEnded then ['\n'] else [])
      return ((), true)) patience (Feed.start fd) ()
    return feed.error?
where
  shorthand : List Text → List Text
    | ('-' :: c :: digits) :: rest =>
      if (c :: digits).all Char.isDigit then "-w".toList :: (c :: digits) :: rest
      else ('-' :: c :: digits) :: rest
    | all => all
  broken (atSpaces : Bool) (width : Nat) : Nat → Text → List Text
    | 0, t => [t]
    | n + 1, t =>
      if t.length ≤ width then [t]
      else
        let piece := t.take width
        let upToSpace := (piece.reverse.dropWhile (· != ' ')).length
        let k := if atSpaces && 0 < upToSpace then upToSpace else width
        t.take k :: broken atSpaces width n (t.drop k)

/-- Print numbers in sequence. -/
def seq (all : List Text) : Tool Unit := do
  let (options, words) := all.span fun w =>
    match w with
    | '-' :: c :: _ => !c.isDigit && c != '.'
    | _ => false
  let taken := options.any fun w => w == ['-', 's'] || w == ['-', 'f']
  let a ← arguments 1 true "s:wf:" [long "separator" 's' .value, long "equal-width" 'w' .nothing,
    long "format" 'f' .value] (options ++ if taken then words.take 1 else [])
  let words := if taken then words.drop 1 else words
  let parse (w : Text) : Tool (Int × Nat) := do
    let (negative, t) : Bool × Text :=
      match w with
      | '-' :: t => (true, t)
      | '+' :: t => (false, t)
      | t => (false, t)
    let whole := t.takeWhile Char.isDigit
    let (fraction, rest) : Text × Text :=
      match t.drop whole.length with
      | '.' :: r => (r.takeWhile Char.isDigit, r.dropWhile Char.isDigit)
      | r => ([], r)
    if !rest.isEmpty || (whole ++ fraction).isEmpty then
      misuse 1 ("invalid floating point argument: ".toList ++ quoted w)
    let n : Int := Text.valueOf 10 (whole ++ fraction)
    return (if negative then -n else n, fraction.length)
  let numbers ← words.mapM parse
  let (first, step, last) ←
    match numbers with
    | [last] => pure ((1, 0), (1, 0), last)
    | [first, last] => pure (first, (1, 0), last)
    | [first, step, last] => pure (first, step, last)
    | [] => misuse 1 "missing operand".toList
    | _ => misuse 1 ("extra operand ".toList ++ quoted ((words[3]?).getD []))
  let places := max first.2 step.2
  let common := max places last.2
  let scaled (x : Int × Nat) : Int := x.1 * Nat.pow 10 (common - x.2)
  let (a0, d, b) := (scaled first, scaled step, scaled last)
  if d = 0 then
    misuse 1 ("invalid Zero increment value: ".toList ++ quoted ((words[1]?).getD []))
  let show_ (x : Int) : Text :=
    let k := x.natAbs / Nat.pow 10 (common - places)
    let digits := Text.decimal k
    let digits := List.replicate (places + 1 - digits.length) '0' ++ digits
    let t := digits.take (digits.length - places) ++
      (if places = 0 then [] else '.' :: digits.drop (digits.length - places))
    if x < 0 then '-' :: t else t
  let width := max (show_ a0).length (show_ b).length
  let shown (x : Int) : Text :=
    let t := show_ x
    if a.has 'f' then (Shell.format ((a.value? 'f').getD []) [t]).1
    else if a.has 'w' then
      match t with
      | '-' :: t => '-' :: List.replicate (width - 1 - t.length) '0' ++ t
      | t => List.replicate (width - t.length) '0' ++ t
    else t
  let between := (a.value? 's').getD ['\n']
  let rec go : Nat → Int → Bool → Tool Unit
    | 0, _, _ => return
    | n + 1, x, isFirst => do
      if (if 0 < d then b < x else x < b) then
        if !isFirst then print ['\n']
      else
        print ((if isFirst then [] else between) ++ shown x)
        go n (x + d) false
  go patience a0 true

end RuleSets.Utility.Tool
