import RuleSets.Data.Double.Decimal
import RuleSets.Utility.Stream

/-!
# Sorting

Lines in order, and lines compared with their neighbours.
-/

namespace RuleSets.Utility

/-- How a key is compared. -/
structure Comparison where
  isNumeric : Bool
  isGeneral : Bool
  isHuman : Bool
  isMonth : Bool
  isVersion : Bool
  foldsCase : Bool
  skipsBlanks : Bool
  isDictionary : Bool
  isPrinting : Bool
  isReversed : Bool
deriving DecidableEq

namespace Comparison

/-- Byte by byte. -/
def plain : Comparison := ⟨false, false, false, false, false, false, false, false, false, false⟩

/-- A comparison with one more option. -/
def with? (k : Comparison) (c : Char) : Option Comparison :=
  match c with
  | 'n' => some { k with isNumeric := true }
  | 'g' => some { k with isGeneral := true }
  | 'h' => some { k with isHuman := true }
  | 'M' => some { k with isMonth := true }
  | 'V' => some { k with isVersion := true }
  | 'f' => some { k with foldsCase := true }
  | 'b' => some { k with skipsBlanks := true }
  | 'd' => some { k with isDictionary := true }
  | 'i' => some { k with isPrinting := true }
  | 'r' => some { k with isReversed := true }
  | _ => none

/-- Whether a character is a blank. -/
def isGap (c : Char) : Bool := c == ' ' || c == '\t' || c == '\n'

/-- A decimal number at the start of a text: its sign, the digits before the period and those behind
it, and what follows. -/
def number (t : Text) : Bool × Text × Text × Text :=
  let t := t.dropWhile isGap
  let (negative, t) := match t with | '-' :: t => (true, t) | t => (false, t)
  let whole := t.takeWhile Char.isDigit
  let rest := t.drop whole.length
  let (fraction, rest) :=
    match rest with
    | '.' :: rest => (rest.takeWhile Char.isDigit, rest.dropWhile Char.isDigit)
    | rest => ([], rest)
  (negative, whole, fraction, rest)

/-- The order of two numbers without signs. -/
def magnitudes (a b : Text × Text) : Ordering :=
  let strip (t : Text) : Text := t.dropWhile (· == '0')
  let stripEnd (t : Text) : Text := (t.reverse.dropWhile (· == '0')).reverse
  let (x, y) := (strip a.1, strip b.1)
  (compare x.length y.length).then ((Text.order x y).then
    (Text.order (stripEnd a.2) (stripEnd b.2)))

/-- The order of two numbers with signs. -/
def numbers (a b : Bool × Text × Text) : Ordering :=
  let isZero (x : Bool × Text × Text) : Bool := (x.2.1 ++ x.2.2).all (· == '0')
  match a.1 && !isZero a, b.1 && !isZero b with
  | true, true => magnitudes b.2 a.2
  | true, false => .lt
  | false, true => .gt
  | false, false => magnitudes a.2 b.2

/-- The rank of the suffix of a number. -/
def suffixRank (rest : Text) : Nat :=
  match rest with
  | c :: _ => (("KMGTPEZY".toList.findIdx? (· == c)).map (· + 1)).getD (if c == 'k' then 1 else 0)
  | [] => 0

/-- The rank of a number with a sign and a suffix. -/
def humanKey (t : Text) : Int × (Bool × Text × Text) :=
  let (negative, whole, fraction, rest) := number t
  let isZero := (whole ++ fraction).all (· == '0')
  let rank : Int := if isZero then 0 else suffixRank rest
  (if negative && !isZero then -rank else rank, negative, whole, fraction)

/-- The number of a month, or zero. -/
def month (t : Text) : Nat :=
  let name := ((t.dropWhile isGap).take 3).map Char.toUpper
  let names := ["JAN", "FEB", "MAR", "APR", "MAY", "JUN", "JUL", "AUG", "SEP", "OCT", "NOV", "DEC"]
  ((names.findIdx? (·.toList == name)).map (· + 1)).getD 0

/-- The order of two texts as numbers with exponents; what is no number comes first. -/
def general (a b : Text) : Ordering :=
  let value (t : Text) : Option (Int × Nat) :=
    let t := t.dropWhile isGap
    let (negative, t) : Bool × Text :=
      match t with
      | '-' :: t => (true, t)
      | '+' :: t => (false, t)
      | t => (false, t)
    (Double.readDecimal? t).map fun (v, _) =>
      (if negative then -(v.num : Int) else v.num, v.den)
  match value a, value b with
  | none, none => .eq
  | none, some _ => .lt
  | some _, none => .gt
  | some (m, d), some (n, e) => compare (m * (e : Int)) (n * (d : Int))

/-- The order of two texts where numbers in them count as such. -/
def versions : Nat → Text → Text → Ordering
  | 0, _, _ => .eq
  | n + 1, a, b =>
    let rank (c? : Option Char) : Int :=
      match c? with
      | none => 0
      | some '~' => -1
      | some c => if c.isDigit then 0 else if c.isAlpha then c.toNat else c.toNat + 256
    let rec texts : Nat → Text → Text → Ordering × Text × Text
      | 0, a, b => (.eq, a, b)
      | n + 1, a, b =>
        let isText (t : Text) : Bool := t.head?.any (!·.isDigit)
        if !isText a && !isText b then (.eq, a, b)
        else
          match compare (rank a.head?) (rank b.head?) with
          | .eq =>
            texts n (if isText a then a.drop 1 else a) (if isText b then b.drop 1 else b)
          | o => (o, a, b)
    match texts (a.length + b.length + 1) a b with
    | (.eq, a, b) =>
      if a.isEmpty && b.isEmpty then .eq
      else
        let da := a.takeWhile Char.isDigit
        let db := b.takeWhile Char.isDigit
        (magnitudes (da, []) (db, [])).then (versions n (a.drop da.length) (b.drop db.length))
    | (o, _, _) => o

/-- The order of two keys. -/
def keys (k : Comparison) (a b : Text) : Ordering :=
  let trimmed (t : Text) : Text := if k.skipsBlanks then t.dropWhile isGap else t
  let (a, b) := (trimmed a, trimmed b)
  let shaped (t : Text) : Text :=
    let t :=
      if k.isDictionary then t.filter fun c => isGap c || c.isAlphanum
      else if k.isPrinting then t.filter fun c => 32 ≤ c.toNat && c.toNat < 127
      else t
    if k.foldsCase then t.map Char.toUpper else t
  let o :=
    if k.isNumeric then
      let (s, w, f, _) := number a
      let (s', w', f', _) := number b
      numbers (s, w, f) (s', w', f')
    else if k.isGeneral then general a b
    else if k.isHuman then
      let (r, x) := humanKey a
      let (r', y) := humanKey b
      (compare r r').then (numbers x y)
    else if k.isMonth then compare (month a) (month b)
    else if k.isVersion then versions (a.length + b.length + 1) (shaped a) (shaped b)
    else Text.order (shaped a) (shaped b)
  if k.isReversed then o.swap else o

end Comparison

/-- A position in a line: a field, and a character in it, with nothing for the end of the field. -/
structure Position where
  field : Nat
  character : Nat
  skipsBlanks : Bool

/-- A key to sort by. -/
structure SortKey where
  start : Position
  stop? : Option Position
  comparison : Comparison

namespace SortKey

/-- Where the fields of a line begin and end: those between separators, or with the blanks before
them. -/
def fields (separator? : Option Char) (line : Text) : List (Nat × Nat) :=
  match separator? with
  | some c =>
    let lengths := (Text.splitBy (· == c) line).map (·.length)
    (lengths.foldl (fun (acc : List (Nat × Nat) × Nat) n =>
      ((acc.2, acc.2 + n) :: acc.1, acc.2 + n + 1)) ([], 0)).1.reverse
  | none => blankFields (line.length + 1) 0 line
where
  blankFields : Nat → Nat → Text → List (Nat × Nat)
    | 0, _, _ => []
    | _, _, [] => []
    | n + 1, start, t =>
      let gap := (t.takeWhile Comparison.isGap).length
      let word := ((t.drop gap).takeWhile (!Comparison.isGap ·)).length
      (start, start + gap + word) :: blankFields n (start + gap + word) (t.drop (gap + word))

/-- The part of a line that a key is. -/
def part (separator? : Option Char) (k : SortKey) (line : Text) : Text :=
  let fs := fields separator? line
  let blanksAt (i : Nat) : Nat := ((line.drop i).takeWhile Comparison.isGap).length
  let startOf (p : Position) : Nat :=
    match fs[p.field - 1]? with
    | some (a, _) => if p.skipsBlanks then a + blanksAt a else a
    | none => line.length
  let first := min line.length (startOf k.start + (k.start.character - 1))
  let last : Nat :=
    match k.stop? with
    | none => line.length
    | some p =>
      match fs[p.field - 1]? with
      | none => line.length
      | some (_, e) => if p.character = 0 then e else min line.length (startOf p + p.character)
  (line.drop first).take (last - first)

end SortKey

namespace Tool

/-- A position as it is written in a key, with the letters behind it. -/
def position? (t : Text) : Option (Nat × Option Nat × Text) :=
  let field := t.takeWhile Char.isDigit
  if field.isEmpty then none
  else
    match t.drop field.length with
    | '.' :: rest =>
      let character := rest.takeWhile Char.isDigit
      some (Text.valueOf 10 field, some (Text.valueOf 10 character), rest.drop character.length)
    | rest => some (Text.valueOf 10 field, none, rest)

/-- A key as it is written. -/
def sortKey (all : Comparison) (t : Text) : Tool SortKey := do
  let bad {α : Type} (t : Text) : Tool α :=
    die 2 ("invalid number at field start: invalid count at start of ".toList ++ quoted t)
  let (first, second) := (t.takeWhile (· != ','), (t.dropWhile (· != ',')).drop 1)
  match position? first with
  | none => bad t
  | some (field, character?, letters) =>
    if field = 0 then die 2 ("field number is zero: invalid field specification ".toList ++ quoted t)
    let stop? ←
      if second.isEmpty then pure none
      else
        match position? second with
        | none => bad second
        | some (field, character?, letters) =>
          pure (some (field, character?, letters))
    let own := letters ++ (stop?.elim [] fun s => s.2.2)
    let comparison? := own.foldlM Comparison.with? Comparison.plain
    match comparison? with
    | none =>
      die 2 ("stray character in field spec: invalid field specification ".toList ++ quoted t)
    | some comparison =>
      let isOwn := !own.isEmpty
      let comparison := if isOwn then { comparison with skipsBlanks := false } else all
      let blanks (letters : Text) : Bool :=
        if isOwn then letters.contains 'b' else all.skipsBlanks
      return ⟨⟨field, character?.getD 1, blanks letters⟩,
        stop?.map fun (f, c?, letters) => ⟨f, c?.getD 0, blanks letters⟩, comparison⟩

/-- Sort the lines of operands. -/
def sort (all : List Text) : Tool Unit := do
  let a ← arguments 2 false "bcCdfghiMmno:k:rst:T:S:uVz" [long "reverse" 'r' .nothing,
    long "numeric-sort" 'n' .nothing, long "unique" 'u' .nothing, long "key" 'k' .value,
    long "field-separator" 't' .value, long "output" 'o' .value, long "stable" 's' .nothing,
    long "ignore-case" 'f' .nothing, long "check" 'c' .perhaps, long "merge" 'm' .nothing,
    long "ignore-leading-blanks" 'b' .nothing, long "dictionary-order" 'd' .nothing,
    long "zero-terminated" 'z' .nothing, long "human-numeric-sort" 'h' .nothing,
    long "general-numeric-sort" 'g' .nothing, long "version-sort" 'V' .nothing,
    long "month-sort" 'M' .nothing] all
  modify ({ · with lossText := "fflush failed: 'standard output'".toList, lossStatus := 2 })
  let ending := if a.has 'z' then '\x00' else '\n'
  let whole := a.options.foldl (fun k o => (k.with? o.1).getD k) Comparison.plain
  let separator? ←
    match a.value? 't' with
    | none => pure none
    | some [c] => pure (some c)
    | some ['\\', '0'] => pure (some '\x00')
    | some t => die 2 ((if t.isEmpty then "empty tab".toList else "multi-character tab ".toList ++ quoted t))
  let keys ← (a.options.filter (·.1 == 'k')).mapM fun o => sortKey whole o.2
  let parts (line : Text) : List (Comparison × Text) :=
    if keys.isEmpty then [(whole, line)]
    else keys.map fun k => (k.comparison, k.part separator? line)
  let byKeys (x y : Text × List (Comparison × Text)) : Ordering :=
    (x.2.zip y.2).foldl (fun o (p, q) => o.then (p.1.keys p.2 q.2)) .eq
  let order (x y : Text × List (Comparison × Text)) : Ordering :=
    let o := byKeys x y
    if a.has 's' || a.has 'u' then o
    else
      let last := Text.order x.1 y.1
      o.then (if whole.isReversed then last.swap else last)
  let mut lines := []
  for word in orInput a.operands do
    match ← openInput word with
    | .error e => die 2 ("cannot read: ".toList ++ quotedIfNeeded word ++ ": ".toList ++ reason e)
    | .ok fd =>
      let (t, e?) ← readAll fd
      match e? with
      | some .badDescriptor =>
        die 2 ("stat failed: ".toList ++ quotedIfNeeded word ++ ": Bad file descriptor".toList)
      | some e => die 2 ("read failed: ".toList ++ quotedIfNeeded word ++ ": ".toList ++ reason e)
      | none => pure ()
      lines := lines ++ linesOf ending t
      closeInput fd
  let entries := lines.map fun line => (line, parts line)
  if a.has 'c' || a.has 'C' then
    let isBad (o : Ordering) : Bool := o == .gt || (a.has 'u' && o == .eq)
    match (entries.zip (entries.drop 1)).zipIdx.find? fun ((x, y), _) => isBad (order x y) with
    | some ((_, y), i) =>
      if !a.has 'C' && a.value? 'c' != some "quiet".toList && a.value? 'c' != some "silent".toList then
        let name := (orInput a.operands).headD ['-']
        warn (name ++ ':' :: Text.decimal (i + 2) ++ ": disorder: ".toList ++ y.1)
      quit 1
    | none => return
  let sorted := entries.mergeSort fun x y => order x y != .gt
  let sorted := if a.has 'u' then distinct byKeys sorted else sorted
  match a.value? 'o' with
  | none => for (line, _) in sorted do print (line ++ [ending])
  | some path =>
    match ← call (.openFile path .output) with
    | .error e => die 2 ("open failed: ".toList ++ quotedIfNeeded path ++ ": ".toList ++ reason e)
    | .ok fd =>
      let _ ← call (.write fd (sorted.flatMap fun e => e.1 ++ [ending]))
      closeInput fd
where
  /-- Lines without those that are like the one before. -/
  distinct {β : Type} (order : β → β → Ordering) : List β → List β
    | [] => []
    | [x] => [x]
    | x :: y :: rest =>
      if order x y == .eq then distinct order (x :: rest) else x :: distinct order (y :: rest)

/-- Lines that are like the one before, in groups. -/
def grouped (key : Text → Text) : List Text → List (Text × Nat × List Text)
  | [] => []
  | line :: rest =>
    match grouped key rest with
    | (first, n, others) :: groups =>
      if key first == key line then (line, n + 1, first :: others) :: groups
      else (line, 1, []) :: (first, n, others) :: groups
    | [] => [(line, 1, [])]

/-- Drop, count or choose lines that are like their neighbours. -/
def uniq (all : List Text) : Tool Unit := do
  let a ← arguments 1 false "cdDuif:s:w:z" [long "count" 'c' .nothing,
    long "repeated" 'd' .nothing, long "unique" 'u' .nothing, long "ignore-case" 'i' .nothing,
    long "skip-fields" 'f' .value, long "skip-chars" 's' .value, long "check-chars" 'w' .value,
    long "zero-terminated" 'z' .nothing] all
  let ending := if a.has 'z' then '\x00' else '\n'
  let number (c : Char) (what : String) : Tool Nat := do
    match a.value? c with
    | none => return 0
    | some t =>
      if !t.isEmpty && t.all Char.isDigit then return Text.valueOf 10 t
      else die 1 (t ++ ": invalid number of ".toList ++ what.toList)
  let skippedFields ← number 'f' "fields to skip"
  let skipped ← number 's' "bytes to skip"
  let compared ← number 'w' "bytes to compare"
  let withoutField (t : Text) : Text :=
    (t.dropWhile Comparison.isGap).dropWhile (!Comparison.isGap ·)
  let key (t : Text) : Text :=
    let t := (List.range skippedFields).foldl (fun t _ => withoutField t) t
    let t := t.drop skipped
    let t := if a.has 'w' then t.take compared else t
    if a.has 'i' then t.map Char.toLower else t
  match a.operands with
  | _ :: _ :: extra :: _ => extraOperand extra
  | operands =>
    let word := operands.headD ['-']
    match ← openInput word with
    | .error e => die 1 (quotedIfNeeded word ++ ": ".toList ++ reason e)
    | .ok fd =>
      let (t, e?) ← readAll fd
      closeInput fd
      match e? with
      | some e => die 1 ("error reading ".toList ++ quoted word ++ ": ".toList ++ reason e)
      | none => pure ()
      let goal ←
        match operands.drop 1 with
        | path :: _ =>
          if path == ['-'] then pure 1
          else
            match ← call (.openFile path .output) with
            | .ok fd => pure fd
            | .error e => die 1 (quotedIfNeeded path ++ ": ".toList ++ reason e)
        | [] => pure 1
      let groups := grouped key (linesOf ending t)
      let chosen := groups.filter fun (_, n, _) =>
        (!a.has 'd' || 1 < n) && (!a.has 'u' || n == 1) && (!a.has 'D' || 1 < n)
      let line (e : Text × Nat × List Text) : Text :=
        if a.has 'D' then (e.1 :: e.2.2).flatMap (· ++ [ending])
        else
          (if a.has 'c' then rightAligned 7 (Text.decimal e.2.1) ++ [' '] else []) ++ e.1 ++ [ending]
      if goal = 1 then for e in chosen do print (line e)
      else
        let _ ← call (.write goal (chosen.flatMap line))

end Tool
end RuleSets.Utility
