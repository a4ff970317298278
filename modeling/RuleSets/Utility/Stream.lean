import RuleSets.Text.Character
import RuleSets.Utility.Options

/-!
# Copying streams

Tools that pass on what they read, or a part of it.
-/

namespace RuleSets.Utility.Tool

/-- A number with a suffix that multiplies it, and the sign in front of it. -/
def size? (word : Text) : Option (Option Char × Nat) :=
  let (sign?, digits) : Option Char × Text :=
    match word with
    | '-' :: t => (some '-', t)
    | '+' :: t => (some '+', t)
    | t => (none, t)
  let suffix := digits.dropWhile Char.isDigit
  let n := Text.valueOf 10 (digits.take (digits.length - suffix.length))
  let factor? : Option Nat :=
    match String.ofList suffix with
    | "" => some 1
    | "b" => some 512
    | "kB" | "KB" => some 1000
    | "k" | "K" | "KiB" => some 1024
    | "MB" => some (Nat.pow 1000 2)
    | "M" | "m" | "MiB" => some (Nat.pow 1024 2)
    | "GB" => some (Nat.pow 1000 3)
    | "G" | "g" | "GiB" => some (Nat.pow 1024 3)
    | "T" => some (Nat.pow 1024 4)
    | _ => none
  if suffix.length == digits.length then none else factor?.map fun f => (sign?, n * f)

/-- Complain that an operand cannot be read. -/
def cannotRead (word : Text) (e : IoError) : Tool Unit :=
  fault (quotedIfNeeded word ++ ": ".toList ++ reason e)

/-- Open every operand in turn and do something with it; complain about those that cannot be
opened or read. -/
def eachInput (operands : List Text) (f : Text → Nat → Tool (Option IoError)) : Tool Unit := do
  for word in orInput operands do
    match ← openInput word with
    | .error e => cannotRead word e
    | .ok fd =>
      match ← f word fd with
      | some e => cannotRead word e
      | none => pure ()
      closeInput fd

/-! ### Concatenating -/

/-- How a byte is shown that cannot be seen. -/
def visible (showsTabs : Bool) (c : Char) : Text :=
  let n := c.toNat
  let low (n : Nat) : Text :=
    if n < 32 then ['^', Char.ofNat (n + 64)]
    else if n == 127 then ['^', '?']
    else [Char.ofNat n]
  if c == '\n' || (c == '\t' && !showsTabs) then [c]
  else if n < 128 then low n
  else 'M' :: '-' :: low (n - 128)

/-- The state of a concatenation: the number of the last line, whether a line begins, and how many
empty lines have come just before. -/
structure Numbering where
  number : Nat
  isAtStart : Bool
  blanks : Nat

/-- A number to the right of a column. -/
def rightAligned (width : Nat) (t : Text) : Text := List.replicate (width - t.length) ' ' ++ t

/-- Print the contents of operands one after the other. -/
def cat (all : List Text) : Tool Unit := do
  let a ← arguments 1 false "AbeEnstTuv" [long "show-all" 'A' .nothing, long "number" 'n' .nothing,
    long "number-nonblank" 'b' .nothing, long "show-ends" 'E' .nothing,
    long "squeeze-blank" 's' .nothing, long "show-tabs" 'T' .nothing,
    long "show-nonprinting" 'v' .nothing] all
  let has (letters : String) : Bool := letters.toList.any a.has
  let (numbersAll, numbersFull) := (a.has 'n', a.has 'b')
  let (showsEnds, showsTabs, showsOthers) := (has "AeE", has "AtT", has "Aevt")
  let isPlain := !(numbersAll || numbersFull || showsEnds || showsTabs || showsOthers || a.has 's')
  let shown (t : Text) : Text :=
    if showsOthers then t.flatMap (visible showsTabs)
    else if showsTabs then t.flatMap fun c => if c == '\t' then ['^', 'I'] else [c]
    else t
  let line (s : Numbering) (l : Line) : Tool (Numbering × Bool) := do
    let isBlank := s.isAtStart && l.text.isEmpty && l.isEnded
    if a.has 's' && isBlank && 0 < s.blanks then return ({ s with blanks := s.blanks + 1 }, true)
    else
      let isNumbered := s.isAtStart && (if numbersFull then !isBlank else numbersAll)
      let number := if isNumbered then s.number + 1 else s.number
      if isNumbered then print (rightAligned 6 (Text.decimal number) ++ ['\t'])
      print (shown l.text)
      if l.isEnded then print (if showsEnds then ['$', '\n'] else ['\n'])
      return (⟨number, l.isEnded, if isBlank then s.blanks + 1 else 0⟩, true)
  match ← call (.factsOf 1) with
  | .ok _ => pure ()
  | .error e => die 1 ("standard output: ".toList ++ reason e)
  let mut state : Numbering := ⟨0, true, 0⟩
  for word in orInput a.operands do
    match ← openInput word with
    | .error e => cannotRead word e
    | .ok fd =>
      if ← isOwnOutput fd then fault (quotedIfNeeded word ++ ": input file is output file".toList)
      else if isPlain then
        let (_, e?) ← eachPiece fd (fun _ t => do print t; flush) patience ()
        match e? with
        | some e => cannotRead word e
        | none => pure ()
      else
        let (s, feed) ← eachLine '\n' line patience (Feed.start fd) state
        state := s
        match feed.error? with
        | some e => cannotRead word e
        | none => pure ()
      closeInput fd
  closeStandard (orInput a.operands) "closing standard input"
where
  /-- Whether something that is read is what is written. -/
  isOwnOutput (fd : Nat) : Tool Bool := do
    match ← call (.factsOf fd), ← call (.factsOf 1) with
    | .ok f, .ok g =>
      return f.kind == .regular && g.kind == .regular && f.identity == g.identity && 0 < f.size
    | _, _ => return false

/-- Print what is read, and write it to files. -/
def tee (all : List Text) : Tool Unit := do
  let a ← arguments 1 false "aip" [long "append" 'a' .nothing] all
  let mut fds := []
  for word in a.operands do
    match ← call (.openFile word (if a.has 'a' then .appending else .output)) with
    | .ok fd => fds := fds ++ [(word, fd)]
    | .error e => cannotRead word e
  let files := fds
  let (_, e?) ← eachPiece 0 (fun _ t => do
    print t
    flush
    for (word, fd) in files do
      match ← call (.write fd t) with
      | .ok _ => pure ()
      | .error e => cannotRead word e) patience ()
  match e? with
  | some e => fault ("read error: ".toList ++ reason e)
  | none => pure ()
  closeStandard [['-']] "standard input"

/-! ### Beginnings and ends -/

/-- How much is taken. -/
structure Amount where
  ofBytes : Bool
  sign? : Option Char
  count : Nat

/-- The amount that options ask for. -/
def amount (a : Arguments) : Tool Amount := do
  match a.last? "nc" with
  | none => return ⟨false, none, 10⟩
  | some c =>
    let word := (a.value? c).getD []
    match size? word with
    | some (sign?, n) => return ⟨c == 'c', sign?, n⟩
    | none =>
      die 1 ("invalid number of ".toList ++ (if c == 'c' then "bytes" else "lines").toList ++ ": ".toList
        ++ quoted word)

/-- Arguments where a number behind a hyphen counts lines. -/
def withoutShorthand (all : List Text) : List Text :=
  match all with
  | ('-' :: c :: rest) :: others =>
    if c.isDigit then
      let digits := (c :: rest).takeWhile Char.isDigit
      match (c :: rest).drop digits.length with
      | [] => "-n".toList :: digits :: others
      | ['c'] => "-c".toList :: digits :: others
      | letters => "-n".toList :: digits :: ('-' :: letters) :: others
    else all
  | all => all

/-- Go through operands with a line above each that names it, if there are several. -/
def eachTitled (a : Arguments) (f : Nat → Tool (Option IoError)) : Tool Unit := do
  let name := (← get).name
  let failing (e : IoError) : Text :=
    if name == "tail".toList && e == .badDescriptor then "cannot fstat ".toList
    else "error reading ".toList
  let words := orInput a.operands
  let isTitled := (a.has 'v' || 1 < words.length) && !a.has 'q'
  let mut isFirst := true
  for word in words do
    match ← openInput word with
    | .error e =>
      fault ("cannot open ".toList ++ quoted word ++ " for reading: ".toList ++ reason e)
    | .ok fd =>
      if isTitled then
        print ((if isFirst then [] else ['\n']) ++ "==> ".toList ++ inputName word ++
          " <==\n".toList)
      isFirst := false
      match ← f fd with
      | some e => fault (failing e ++ quoted (inputName word) ++ ": ".toList ++ reason e)
      | none => pure ()
      closeInput fd
  closeStandard words "-"

/-- Give back what has been read too much. -/
def giveBack (fd excess : Nat) : Tool Unit := do
  if 0 < excess then
    let _ ← call (.seek fd .current (-(excess : Int)))

/-- Print the first bytes. -/
def firstBytes (fd : Nat) : Nat → Nat → Tool (Option IoError)
  | 0, _ => return none
  | _, 0 => return none
  | n + 1, left => do
    match (← call (.read fd (min left chunkSize)) : Except IoError Text) with
    | .error e => return some e
    | .ok [] => return none
    | .ok t =>
      print t
      firstBytes fd n (left - t.length)

/-- Print the first lines. -/
def firstLines (fd count : Nat) : Tool (Option IoError) := do
  if count = 0 then return none
  else
    let (_, feed) ← eachLine '\n' (fun left l => do
      print (l.text ++ if l.isEnded then ['\n'] else [])
      return (left - 1, 1 < left)) patience (Feed.start fd) count
    giveBack fd feed.buffer.length
    return feed.error?

/-- A text as lines with their ends. -/
def wholeLines (t : Text) : List Text :=
  let pieces := Text.splitBy (· == '\n') t
  let ended := pieces.dropLast.map (· ++ ['\n'])
  match pieces.getLast? with
  | some (c :: rest) => ended ++ [c :: rest]
  | _ => ended

/-- Print the first part of operands. -/
def head (all : List Text) : Tool Unit := do
  let a ← arguments 1 false "c:n:qvz" [long "bytes" 'c' .value, long "lines" 'n' .value,
    long "quiet" 'q' .nothing, long "silent" 'q' .nothing, long "verbose" 'v' .nothing]
    (withoutShorthand all)
  let m ← amount a
  eachTitled a fun fd => do
    if m.sign? == some '-' then
      let (t, e?) ← readAll fd
      if m.ofBytes then print (t.take (t.length - m.count))
      else
        let ls := wholeLines t
        print (ls.take (ls.length - m.count)).flatten
      return e?
    else if m.ofBytes then firstBytes fd patience m.count
    else firstLines fd m.count

/-- Arguments of `tail`, where a number behind a plus sign is a line to begin at. -/
def withoutTailShorthand (all : List Text) : List Text :=
  match all with
  | ('+' :: c :: rest) :: others =>
    if (c :: rest).all Char.isDigit then "-n".toList :: ('+' :: c :: rest) :: others else all
  | all => withoutShorthand all

/-- Print the last part of operands. -/
def tail (all : List Text) : Tool Unit := do
  let a ← arguments 1 false "c:n:qvzf" [long "bytes" 'c' .value, long "lines" 'n' .value,
    long "quiet" 'q' .nothing, long "silent" 'q' .nothing, long "verbose" 'v' .nothing,
    long "follow" 'f' .perhaps] (withoutTailShorthand all)
  let m ← amount a
  eachTitled a fun fd => do
    let (t, e?) ← readAll fd
    let lines := wholeLines t
    let isFrom := m.sign? == some '+'
    print <|
      if m.ofBytes then
        (if isFrom then t.drop (m.count - 1) else t.drop (t.length - m.count))
      else if isFrom then (lines.drop (m.count - 1)).flatten
      else (lines.drop (lines.length - m.count)).flatten
    return e?
  if a.has 'f' then
    flush
    call (.sleep (Nat.pow 10 15))

/-! ### Counting -/

/-- What is counted of a text. -/
structure Counts where
  lines : Nat
  words : Nat
  characters : Nat
  bytes : Nat
  longest : Nat
  column : Nat
  inWord : Bool

namespace Counts

/-- Nothing counted. -/
def none : Counts := ⟨0, 0, 0, 0, 0, 0, false⟩

/-- Count one more character. -/
def add (k : Counts) (c : Char) : Counts :=
  let k := { k with bytes := k.bytes + 1, characters := k.characters + 1 }
  let fresh (column : Nat) : Counts :=
    { k with inWord := false, column := column, longest := max k.longest column }
  if c == '\n' then { fresh 0 with lines := k.lines + 1 }
  else if c == '\r' || c == '\x0c' then fresh 0
  else if c == '\t' then fresh (k.column + (8 - k.column % 8))
  else if c == ' ' then fresh (k.column + 1)
  else if c == '\x0b' then { k with inWord := false }
  else if Text.isPrint c then
    { k with
      words := if k.inWord then k.words else k.words + 1, inWord := true, column := k.column + 1
      longest := max k.longest (k.column + 1) }
  else k

/-- The sum of two counts. -/
def plus (a b : Counts) : Counts :=
  ⟨a.lines + b.lines, a.words + b.words, a.characters + b.characters, a.bytes + b.bytes,
    max a.longest b.longest, 0, false⟩

end Counts

/-- Count lines, words and bytes of operands. -/
def wc (all : List Text) : Tool Unit := do
  let a ← arguments 1 false "clLmw" [long "bytes" 'c' .nothing, long "chars" 'm' .nothing,
    long "lines" 'l' .nothing, long "words" 'w' .nothing, long "max-line-length" 'L' .nothing] all
  let letters := "lwmcL".toList.filter a.has
  let letters := if letters.isEmpty then "lwc".toList else letters
  let words := orInput a.operands
  let width ←
    if words.length == 1 && letters.length == 1 then pure 1 else widthFor a.operands
  let show_ (k : Counts) (name : Text) : Tool Unit := do
    let numbers := letters.map fun c =>
      match c with
      | 'l' => k.lines
      | 'w' => k.words
      | 'm' => k.characters
      | 'c' => k.bytes
      | _ => k.longest
    let fields := numbers.map fun n => rightAligned width (Text.decimal n)
    printLine (Text.joinWith [' '] fields ++ (if name.isEmpty then [] else ' ' :: name))
  let mut total := Counts.none
  for word in words do
    match ← openInput word with
    | .error e => cannotRead word e
    | .ok fd =>
      let (k, e?) ← eachPiece fd (fun (k : Counts) t => return t.foldl Counts.add k) patience .none
      match e? with
      | some e =>
        if word == ['-'] then fault ("'standard input': ".toList ++ reason e)
        else cannotRead word e
      | none => pure ()
      show_ k (if a.operands.isEmpty then [] else word)
      total := total.plus k
      closeInput fd
  if 1 < words.length then show_ total "total".toList
  closeStandard words "-"
where
  /-- The width of the numbers for operands. -/
  widthFor (operands : List Text) : Tool Nat := do
    if operands.isEmpty then
      match ← call (.factsOf 0) with
      | .ok f => return if f.kind == .regular then (Text.decimal f.size).length else 7
      | .error _ => return 1
    else
      let mut sum := 0
      let mut least := 1
      for word in operands do
        let facts ← if word == ['-'] then call (.factsOf 0) else call (.facts word)
        match facts with
        | .ok f => if f.kind == .regular then sum := sum + f.size else least := 7
        | .error _ => pure ()
      return max least (Text.decimal sum).length

/-! ### Endless and counted output -/

/-- Print a text again and again. -/
def yes (all : List Text) : Tool Unit := do
  let words := if all.head? == some ['-', '-'] then all.drop 1 else all
  let line := (if words.isEmpty then ['y'] else Text.joinWith [' '] words) ++ ['\n']
  let block := (List.replicate (1024 / line.length + 1) line).flatten
  let rec go : Nat → Tool Unit
    | 0 => return
    | n + 1 => do
      print block
      flush
      if (← get).lost?.isSome then
        modify ({ · with lost? := none })
        die 1 "standard output: Broken pipe".toList
      go n
  go patience

end RuleSets.Utility.Tool
