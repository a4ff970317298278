import RuleSets.Utility.Files

/-!
# Blocks

Copying bytes by blocks, and cutting files into pieces.
-/

namespace RuleSets.Utility

namespace Block

/-- How blocks are copied. -/
structure Job where
  source? : Option Text
  goal? : Option Text
  inputSize : Nat
  outputSize : Nat
  count? : Option Nat
  skip : Nat
  seek : Nat
  conversions : List Text
  inputFlags : List Text
  outputFlags : List Text
  status : Text

/-- The factors that may follow a number. -/
def factors : List (String × Nat) :=
  [("", 1), ("c", 1), ("w", 2), ("b", 512), ("kB", 1000), ("k", 1024), ("K", 1024), ("KiB", 1024),
    ("MB", Nat.pow 1000 2), ("M", Nat.pow 1024 2), ("MiB", Nat.pow 1024 2),
    ("GB", Nat.pow 1000 3), ("G", Nat.pow 1024 3), ("GiB", Nat.pow 1024 3), ("B", 1)]

/-- A number with a factor behind it, or a product of them. -/
def number? (t : Text) : Option Nat :=
  (Text.splitBy (· == 'x') t).foldl (fun n? piece => do
    let digits := piece.takeWhile Char.isDigit
    if digits.isEmpty then none
    else
      let factor ← factors.find? fun f => f.1.toList == piece.drop digits.length
      return (← n?) * (Text.valueOf 10 digits * factor.2)) (some 1)

/-- The conversions that are known. -/
def conversions : List Text :=
  ["ascii", "ebcdic", "ibm", "block", "unblock", "lcase", "ucase", "sparse", "swab", "sync", "excl",
    "nocreat", "notrunc", "noerror", "fdatasync", "fsync"].map String.toList

/-- Exchange the bytes of every pair. -/
def swapped : Text → Text
  | a :: b :: t => b :: a :: swapped t
  | t => t

/-- A block as conversions leave it. -/
def converted (j : Job) (t : Text) : Text :=
  let has (name : String) : Bool := j.conversions.contains name.toList
  let t := if has "sync" then t ++ List.replicate (j.inputSize - t.length) '\x00' else t
  let t := if has "swab" then swapped t else t
  let t := if has "lcase" then t.map Char.toLower else t
  if has "ucase" then t.map Char.toUpper else t

/-- The blocks that have been read and written, whole ones and others, and how many bytes. -/
structure Counts where
  wholeIn : Nat
  partIn : Nat
  wholeOut : Nat
  partOut : Nat
  bytes : Nat
  hasFailed : Bool

/-- Bytes in the largest unit of which there is one. -/
def inUnits (n base : Nat) (units : List String) : Option Text :=
  let sizes := units.zipIdx.map fun (u, i) => (u, Nat.pow base (i + 1))
  (sizes.reverse.find? fun (_, size) => size ≤ n).map fun (u, size) =>
    let tenths := (n * 10 + size / 2) / size
    let number : Text :=
      if tenths < 100 then Text.decimal (tenths / 10) ++ '.' :: Text.decimal (tenths % 10)
      else Text.decimal ((n + size / 2) / size)
    number ++ ' ' :: u.toList

/-- What is told of bytes that have been copied. -/
def told (n : Nat) : Text :=
  let large? := inUnits n 1000 ["kB", "MB", "GB", "TB"]
  let binary? := inUnits n 1024 ["KiB", "MiB", "GiB", "TiB"]
  let inner : Text :=
    match large?, binary? with
    | some a, some b => " (".toList ++ a ++ ", ".toList ++ b ++ [')']
    | some a, none => " (".toList ++ a ++ [')']
    | none, _ => []
  Text.decimal n ++ (if n = 1 then " byte" else " bytes").toList ++ inner ++ " copied".toList

end Block

namespace Tool

/-- Write all of a text in blocks, and say how many were whole. -/
def writeBlocks (fd size : Nat) : Nat → Text → Block.Counts → Tool Block.Counts
  | 0, _, k => return k
  | n + 1, t, k => do
    if t.isEmpty || k.hasFailed then return k
    let piece := t.take size
    match ← call (.write fd piece) with
    | .error e =>
      fault ("writing to ".toList ++ quoted "standard output".toList ++ ": ".toList ++ reason e)
      return { k with hasFailed := true }
    | .ok _ =>
      let k := if piece.length == size then { k with wholeOut := k.wholeOut + 1 }
        else { k with partOut := k.partOut + 1 }
      writeBlocks fd size n (t.drop size) { k with bytes := k.bytes + piece.length }

/-- Copy blocks until there are no more or enough of them. -/
def copyBlocks (j : Block.Job) (source goal : Nat) : Nat → Block.Counts → Text → Tool Block.Counts
  | 0, k, _ => return k
  | n + 1, k, waiting => do
    let isPlain := j.inputSize == j.outputSize
    let ended : Tool Block.Counts := writeBlocks goal j.outputSize 2 waiting k
    let left? : Option Nat :=
      j.count?.map fun c =>
        if j.inputFlags.contains "count_bytes".toList then
          c - (k.wholeIn * j.inputSize + k.partIn)
        else (c - (k.wholeIn + k.partIn)) * j.inputSize
    if k.hasFailed || left? == some 0 then ended
    else
      let wanted := min j.inputSize (left?.getD j.inputSize)
      match (← call (.read source wanted) : Except IoError Text) with
      | .error e =>
        fault ("error reading ".toList ++ quoted (j.source?.getD "standard input".toList) ++
          ": ".toList ++ reason e)
        ended
      | .ok [] => ended
      | .ok t =>
        let k := if t.length == j.inputSize then { k with wholeIn := k.wholeIn + 1 }
          else { k with partIn := k.partIn + 1 }
        let t := Block.converted j t
        if isPlain then
          let k ← writeBlocks goal (max t.length j.outputSize) 2 t k
          copyBlocks j source goal n k []
        else
          let all := waiting ++ t
          let whole := all.length / j.outputSize * j.outputSize
          let k ← writeBlocks goal j.outputSize (whole + 1) (all.take whole) k
          copyBlocks j source goal n k (all.drop whole)

/-- Take up an operand of `dd`. -/
def blockOperand (j : Block.Job) (word : Text) : Tool Block.Job := do
  let name := word.takeWhile (· != '=')
  let value := word.drop (name.length + 1)
  let number (f : Nat → Block.Job) (least : Nat) : Tool Block.Job := do
    match Block.number? value with
    | some n => if least ≤ n then return f n else die 1 ("invalid number: ".toList ++ quoted value)
    | none => die 1 ("invalid number: ".toList ++ quoted value)
  let list := Text.splitBy (· == ',') value
  if !word.contains '=' then misuse 1 ("unrecognized operand ".toList ++ quoted word)
  match String.ofList name with
  | "if" => return { j with source? := some value }
  | "of" => return { j with goal? := some value }
  | "bs" => number (fun n => { j with inputSize := n, outputSize := n }) 1
  | "ibs" => number (fun n => { j with inputSize := n }) 1
  | "obs" => number (fun n => { j with outputSize := n }) 1
  | "count" => number (fun n => { j with count? := some n }) 0
  | "skip" | "iseek" => number (fun n => { j with skip := n }) 0
  | "seek" | "oseek" => number (fun n => { j with seek := n }) 0
  | "conv" =>
    match list.find? (!Block.conversions.contains ·) with
    | some c => misuse 1 ("invalid conversion: ".toList ++ quoted c)
    | none => return { j with conversions := j.conversions ++ list }
  | "iflag" => return { j with inputFlags := j.inputFlags ++ list }
  | "oflag" => return { j with outputFlags := j.outputFlags ++ list }
  | "status" =>
    if ["none", "noxfer", "progress"].contains (String.ofList value) then
      return { j with status := value }
    else misuse 1 ("invalid status level: ".toList ++ quoted value)
  | _ => misuse 1 ("unrecognized operand ".toList ++ quoted word)

/-- Leave bytes out that would be read. -/
def skipBytes (fd : Nat) : Nat → Nat → Tool Unit
  | 0, _ => return
  | n + 1, left => do
    if left = 0 then return
    match (← call (.read fd (min left chunkSize)) : Except IoError Text) with
    | .ok [] | .error _ => return
    | .ok t => skipBytes fd n (left - t.length)

/-- Copy blocks. -/
def dd (all : List Text) : Tool Unit := do
  let a ← arguments 1 true "" [] all
  let j ← a.operands.foldlM blockOperand
    ⟨none, none, 512, 512, none, 0, 0, [], [], [], []⟩
  let has (name : String) : Bool := j.conversions.contains name.toList
  let source ←
    match j.source? with
    | none => pure 0
    | some path =>
      match ← call (.openFile path .input) with
      | .ok fd => pure fd
      | .error e => die 1 ("failed to open ".toList ++ quoted path ++ ": ".toList ++ reason e)
  let offset := j.seek * (if j.outputFlags.contains "seek_bytes".toList then 1 else j.outputSize)
  let goal ←
    match j.goal? with
    | none => pure 1
    | some path =>
      let keeps := has "notrunc" || 0 < offset || j.outputFlags.contains "append".toList
      let how : Machine.Opening := {
        reads := false, writes := true, creates := !has "nocreat", clears := !keeps
        appends := j.outputFlags.contains "append".toList, onlyNew := has "excl" }
      match ← call (.openFile path how) with
      | .ok fd =>
        if 0 < offset then
          if !has "notrunc" then
            let _ ← call (.edit (.resize path offset))
          let _ ← call (.seek fd .start offset)
        pure fd
      | .error e => die 1 ("failed to open ".toList ++ quoted path ++ ": ".toList ++ reason e)
  if 0 < j.skip then
    let bytes := j.skip * (if j.inputFlags.contains "skip_bytes".toList then 1 else j.inputSize)
    match ← call (.seek source .current bytes) with
    | .ok _ => pure ()
    | .error _ => skipBytes source patience bytes
  let k ← copyBlocks j source goal patience ⟨0, 0, 0, 0, 0, false⟩ []
  if j.status != "none".toList then
    let line (whole part : Nat) (way : String) : Tool Unit :=
      report (Text.decimal whole ++ '+' :: Text.decimal part ++ " records ".toList ++ way.toList)
    line k.wholeIn k.partIn "in"
    line k.wholeOut k.partOut "out"
    if j.status != "noxfer".toList then
      report (Block.told k.bytes ++ ", 0.0001 s, 1.0 MB/s".toList)

/-- The name of a piece by its number. -/
def pieceName (isNumeric : Bool) (length n : Nat) : Text :=
  let base := if isNumeric then 10 else 26
  let first := if isNumeric then 48 else 97
  ((List.range length).map fun i => Char.ofNat (first + n / Nat.pow base i % base)).reverse

/-- Cut a file into pieces. -/
def split (all : List Text) : Tool Unit := do
  let a ← arguments 1 false "a:b:C:dl:n:" [long "suffix-length" 'a' .value, long "bytes" 'b' .value,
    long "numeric-suffixes" 'd' .perhaps, long "lines" 'l' .value,
    long "additional-suffix" '1' .value] all
  let size (c : Char) (what : String) : Tool Nat := do
    let w := (a.value? c).getD []
    match Block.number? w with
    | some 0 | none =>
      die 1 ("invalid number of ".toList ++ what.toList ++ ": ".toList ++ quoted w)
    | some n => return n
  let word := a.operands.headD ['-']
  let lead := (a.operands[1]?).getD ['x']
  match ← openInput word with
  | .error e =>
    die 1 ("cannot open ".toList ++ quoted word ++ " for reading: ".toList ++ reason e)
  | .ok fd =>
    let (t, _) ← readAll fd
    let pieces ←
      match a.last? "bln" with
      | some 'b' => do
        let n ← size 'b' "bytes"
        pure (cut n (t.length + 1) t)
      | some 'n' => do
        let n ← size 'n' "chunks"
        let part := t.length / n
        pure ((List.range n).map fun i =>
          if i + 1 = n then t.drop (i * part) else (t.drop (i * part)).take part)
      | other => do
        let n ← if other.isSome then size 'l' "lines" else pure 1000
        let lines := wholeLines t
        pure ((cut n (lines.length + 1) lines).map List.flatten)
    let length := ((a.value? 'a').map (Text.valueOf 10)).getD 2
    for (piece, i) in pieces.zipIdx do
      let path := lead ++ pieceName (a.has 'd') length i ++ (a.value? '1').getD []
      match ← call (.openFile path .output) with
      | .ok fd =>
        let _ ← call (.write fd piece)
        closeInput fd
      | .error e => die 1 (path ++ ": ".toList ++ reason e)
where
  cut {α : Type} (n : Nat) : Nat → List α → List (List α)
    | 0, _ => []
    | k + 1, l => if l.isEmpty then [] else l.take n :: cut n k (l.drop n)

/-- Copy files and set their permissions. -/
def install (all : List Text) : Tool Unit := do
  let a ← arguments 1 false "bcCdDg:m:o:pst:Tv" [long "mode" 'm' .value,
    long "directory" 'd' .nothing, long "target-directory" 't' .value,
    long "verbose" 'v' .nothing] all
  let mode := ((a.value? 'm').bind fun w => changedMode? false w 0).getD 493
  if a.has 'd' then
    if a.operands.isEmpty then misuse 1 "missing file operand".toList
    for path in a.operands do
      for p in pathsOnWay path do
        if !(← isDirectory p) then
          match ← call (.edit (.makeDirectory p)) with
          | .ok _ => pure ()
          | .error e =>
            die 1 ("cannot create directory ".toList ++ quoted p ++ ": ".toList ++ reason e)
  else
    match a.has 'D', a.operands.reverse with
    | true, path :: _ :: _ =>
      for p in pathsOnWay (parentName path) do
        if !(← isDirectory p) then
          let _ ← call (.edit (.makeDirectory p))
    | _, _ => pure ()
    let g ← goal a
    for source in g.sources do
      match ← call (.facts source) with
      | .error e => fault ("cannot stat ".toList ++ quoted source ++ ": ".toList ++ reason e)
      | .ok f =>
        let target := g.of source
        if f.kind == .directory then fault ("omitting directory ".toList ++ quoted source)
        else
          if (← facts? target).isSome then
            let _ ← call (.edit (.remove target))
          copyContents source target f
          let _ ← call (.edit (.setExecutable target (mode / 64 % 2 == 1)))

end Tool
end RuleSets.Utility
