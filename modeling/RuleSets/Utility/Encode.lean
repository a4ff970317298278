import RuleSets.Utility.Digest
import RuleSets.Shell.Format

/-!
# Encodings of bytes

Bytes as text and text as bytes.
-/

namespace RuleSets.Utility

namespace Encode

/-! ### Sixty-four characters -/

/-- The characters that stand for six bits. -/
def alphabet : Text :=
  "ABCDEFGHIJKLMNOPQRSTUVWXYZabcdefghijklmnopqrstuvwxyz0123456789+/".toList

/-- The characters for three bytes or fewer. -/
def quadruple (t : Text) : Text :=
  let n := Digest.big (t ++ List.replicate (3 - t.length) '\x00')
  let letter (k : Nat) : Char := alphabet.getD (n / Nat.pow 64 k % 64) '='
  ((List.range 4).map fun i => letter (3 - i)).take (t.length + 1) ++ List.replicate (3 - t.length) '='

/-- A text in sixty-four characters. -/
def encoded (t : Text) : Text := (Digest.cut 3 t).flatMap quadruple

/-- The number that a character stands for. -/
def six? (c : Char) : Option Nat := alphabet.findIdx? (· == c)

/-- The bytes for four characters, and whether all of them were right. -/
def bytesOf (q : Text) : Text × Bool :=
  let byte (n : Nat) : Char := Char.ofNat (n % 256)
  match q with
  | a :: b :: rest =>
    match six? a, six? b with
    | some a, some b =>
      let first := byte (a * 4 + b / 16)
      match rest with
      | ['=', '='] => ([first], true)
      | c :: rest =>
        match six? c with
        | none => ([first], false)
        | some c =>
          let second := byte (b * 16 + c / 4)
          match rest with
          | ['='] => ([first, second], true)
          | [d] =>
            match six? d with
            | some d => ([first, second, byte (c * 64 + d)], true)
            | none => ([first, second], false)
          | _ => ([first, second], false)
      | [] => ([first], false)
    | _, _ => ([], false)
  | _ => ([], false)

/-- The text that sixty-four characters spell, and whether all of it was right. -/
def decoded : List Text → Text × Bool
  | [] => ([], true)
  | q :: rest =>
    match bytesOf q with
    | (t, true) =>
      let (more, isRight) := decoded rest
      (t ++ more, isRight)
    | bad => bad

/-! ### Dumps -/

/-- How the bytes of a dump are shown. -/
structure Form where
  letter : Char
  size : Nat

/-- The names of the characters that cannot be seen. -/
def names : List String :=
  ["nul", "soh", "stx", "etx", "eot", "enq", "ack", "bel", "bs", "ht", "nl", "vt", "ff", "cr", "so",
    "si", "dle", "dc1", "dc2", "dc3", "dc4", "nak", "syn", "etb", "can", "em", "sub", "esc", "fs",
    "gs", "rs", "us", "sp"]

/-- A character as it is named. -/
def named (c : Char) : Text :=
  let n := c.toNat % 128
  if n = 127 then "del".toList
  else match names[n]? with
    | some s => s.toList
    | none => [Char.ofNat n]

/-- A number with zeros before it. -/
def filled (width base n : Nat) : Text :=
  let t := Text.numeral base n
  List.replicate (width - t.length) '0' ++ t

/-- A character as it is escaped. -/
def escaped (c : Char) : Text :=
  match c with
  | '\x00' => ['\\', '0']
  | '\x07' => ['\\', 'a']
  | '\x08' => ['\\', 'b']
  | '\t' => ['\\', 't']
  | '\n' => ['\\', 'n']
  | '\x0b' => ['\\', 'v']
  | '\x0c' => ['\\', 'f']
  | '\r' => ['\\', 'r']
  | c => if Text.isPrint c then [c] else filled 3 8 c.toNat

/-- The digits that the largest number of some bytes has. -/
def digitsFor (base size : Nat) : Nat := (Text.numeral base (Nat.pow 256 size - 1)).length

/-- The width of a field without the blank before it. -/
def Form.width (f : Form) : Nat :=
  match f.letter with
  | 'x' => 2 * f.size
  | 'o' => digitsFor 8 f.size
  | 'u' => digitsFor 10 f.size
  | 'd' => (Text.decimal (Nat.pow 256 f.size / 2)).length + 1
  | _ => 3

/-- How some bytes are shown. -/
def Form.show (f : Form) (t : Text) : Text :=
  let n := Digest.big t.reverse
  match f.letter with
  | 'x' => filled f.width 16 n
  | 'o' => filled f.width 8 n
  | 'u' => Text.decimal n
  | 'd' =>
    let limit := Nat.pow 256 f.size
    if n < limit / 2 then Text.decimal n else '-' :: Text.decimal (limit - n)
  | 'a' => t.flatMap named
  | _ => t.flatMap escaped

/-- The form that a letter and a size spell, and what follows them. -/
def form? (t : Text) : Option (Form × Text) :=
  match t with
  | [] => none
  | c :: rest =>
    if c == 'a' || c == 'c' then some (⟨c, 1⟩, rest)
    else if "doux".toList.contains c then
      match rest with
      | 'C' :: rest => some (⟨c, 1⟩, rest)
      | 'S' :: rest => some (⟨c, 2⟩, rest)
      | 'I' :: rest => some (⟨c, 4⟩, rest)
      | 'L' :: rest => some (⟨c, 8⟩, rest)
      | rest =>
        let digits := rest.takeWhile Char.isDigit
        if digits.isEmpty then some (⟨c, 4⟩, rest)
        else
          let n := Text.valueOf 10 digits
          if [1, 2, 4, 8].contains n then some (⟨c, n⟩, rest.drop digits.length) else none
    else none

/-- The forms that a text spells, each with whether characters are shown beside it. -/
def forms? : Nat → Text → Option (List (Form × Bool))
  | 0, _ => none
  | _, [] => some []
  | n + 1, t =>
    match form? t with
    | none => none
    | some (f, 'z' :: rest) => (forms? n rest).map ((f, true) :: ·)
    | some (f, rest) => (forms? n rest).map ((f, false) :: ·)

end Encode

namespace Tool

/-- Turn bytes into sixty-four characters, or back. -/
def base64 (all : List Text) : Tool Unit := do
  let a ← arguments 1 false "diw:" [long "decode" 'd' .nothing,
    long "ignore-garbage" 'i' .nothing, long "wrap" 'w' .value] all
  let width ←
    match a.value? 'w' with
    | none => pure 76
    | some w =>
      if !w.isEmpty && w.all Char.isDigit then pure (Text.valueOf 10 w)
      else die 1 ("invalid wrap size: ".toList ++ quoted w)
  match a.operands with
  | _ :: extra :: _ => extraOperand extra
  | operands =>
    match ← contentsOf? (operands.headD ['-']) with
    | none => return
    | some t =>
      if a.has 'd' then
        let t := t.filter (· != '\n')
        let t := if a.has 'i' then t.filter fun c => c == '=' || (Encode.six? c).isSome else t
        let (bytes, isRight) := Encode.decoded (Digest.cut 4 t)
        print bytes
        if !isRight then die 1 "invalid input".toList
      else
        let letters := Encode.encoded t
        if width = 0 then print letters
        else for line in Digest.cut width letters do printLine line

/-- Show the bytes of operands. -/
def od (all : List Text) : Tool Unit := do
  let a ← arguments 1 false "abcdfilosxA:j:N:t:vw::" [long "address-radix" 'A' .value,
    long "skip-bytes" 'j' .value, long "read-bytes" 'N' .value, long "format" 't' .value,
    long "output-duplicates" 'v' .nothing, long "width" 'w' .perhaps] all
  let forms ← a.options.mapM fun (c, value) => do
    match c with
    | 'a' => return [(⟨'a', 1⟩, false)]
    | 'b' => return [(⟨'o', 1⟩, false)]
    | 'c' => return [(⟨'c', 1⟩, false)]
    | 'd' => return [(⟨'u', 2⟩, false)]
    | 'i' => return [(⟨'d', 4⟩, false)]
    | 'l' => return [(⟨'d', 8⟩, false)]
    | 'o' => return [(⟨'o', 2⟩, false)]
    | 's' => return [(⟨'d', 2⟩, false)]
    | 'x' => return [(⟨'x', 2⟩, false)]
    | 't' =>
      match Encode.forms? (value.length + 1) value with
      | some forms => return forms
      | none =>
        die 1 ("invalid character ".toList ++ quoted (value.take 1) ++ " in type string ".toList ++
          quoted value)
    | _ => return ([] : List (Encode.Form × Bool))
  let forms : List (Encode.Form × Bool) := forms.flatten
  let forms := if forms.isEmpty then [(⟨'o', 2⟩, false)] else forms
  let number (c : Char) : Tool (Option Nat) := do
    match a.value? c with
    | none => return none
    | some w =>
      match size? w with
      | some (none, n) => return some n
      | _ => die 1 ("invalid -".toList ++ c :: " argument ".toList ++ quoted w)
  let most? ← number 'N'
  let skipped := (← number 'j').getD 0
  let width := match a.value? 'w' with
    | none => 16
    | some w => if w.isEmpty then 32 else max 1 (Text.valueOf 10 w)
  let t ← readInput a.operands (most?.map (· + skipped))
  let t := (match most? with | some n => t.take (n + skipped) | none => t).drop skipped
  let base? := match (a.value? 'A').bind (·.head?) with
    | some 'n' => none
    | some 'd' => some 10
    | some 'x' => some 16
    | _ => some 8
  let address (n : Nat) : Text :=
    match base? with
    | none => []
    | some base => Encode.filled (if base = 16 then 6 else 7) base n
  let total (f : Encode.Form) : Nat := width / f.size * (f.width + 1)
  let widest := forms.foldl (fun n f => max n (total f.1)) 0
  let row (f : Encode.Form × Bool) (piece : Text) : Text :=
    let parts := Digest.cut f.1.size piece
    let field := widest / max 1 (width / f.1.size)
    let shown := parts.flatMap fun p =>
      rightAligned field (f.1.show (p ++ List.replicate (f.1.size - p.length) '\x00'))
    if f.2 then
      shown ++ List.replicate (widest - shown.length) ' ' ++ "  >".toList ++
        piece.map (fun c => if Text.isPrint c then c else '.') ++ ['<']
    else shown
  let mut place := skipped
  let mut last? : Option Text := none
  let mut isRepeating := false
  for piece in Digest.cut width t do
    if last? == some piece && piece.length == width && !a.has 'v' then
      if !isRepeating then printLine ['*']
      isRepeating := true
    else
      isRepeating := false
      for (f, i) in forms.zipIdx do
        let lead := address place
        let lead := if i = 0 then lead else List.replicate lead.length ' '
        printLine (lead ++ row f piece)
    last? := some piece
    place := place + piece.length
  if base?.isSome && (0 < t.length || (← get).status = 0) then printLine (address place)
where
  /-- Everything that can be read from operands, or the first bytes. -/
  readInput (operands : List Text) (most? : Option Nat) : Tool Text := do
    let mut t := []
    for word in orInput operands do
      match most? with
      | some most =>
        match ← openInput word with
        | .error e => cannotRead word e
        | .ok fd =>
          t := t ++ (← readSome fd (most - t.length) (most + 1))
          closeInput fd
      | none => t := t ++ ((← contentsOf? word).getD [])
    return t
  /-- Read so many bytes if there are that many. -/
  readSome (fd left : Nat) : Nat → Tool Text
    | 0 => return []
    | n + 1 => do
      if left = 0 then return []
      match (← call (.read fd (min left chunkSize)) : Except IoError Text) with
      | .ok [] | .error _ => return []
      | .ok t => return t ++ (← readSome fd (left - t.length) n)

end Tool
end RuleSets.Utility
