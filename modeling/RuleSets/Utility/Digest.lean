import RuleSets.Utility.Stream

/-!
# Digests

Sums that tell files apart.
-/

namespace RuleSets.Utility

namespace Digest

/-! ### Constants -/

/-- The largest number whose power does not exceed another one, found bit by bit. -/
def root (power n : Nat) : Nat → Nat → Nat
  | 0, r => r
  | bit + 1, r =>
    let r' := r + Nat.pow 2 bit
    root power n bit (if Nat.pow r' power ≤ n then r' else r)

/-- The first bits behind the point of the root of a prime. -/
def rootBits (power bits prime : Nat) : Nat :=
  root power (prime * Nat.pow 2 (power * bits)) (bits + 8) 0 % Nat.pow 2 bits

/-- The first primes. -/
def primes (count : Nat) : List Nat :=
  ((List.range 410).filter fun n =>
    2 ≤ n && (List.range n).all fun d => d < 2 || n % d ≠ 0).take count

/-! ### Blocks -/

/-- A text with a mark, zeros and its length in bits behind it, so that blocks of a size fill it. -/
def padded (block lengthSize : Nat) (isBigEndian : Bool) (t : Text) : Text :=
  let used := t.length + 1 + lengthSize
  let zeros := (block - used % block) % block
  let digits := (List.range lengthSize).map fun i =>
    Char.ofNat (t.length * 8 / Nat.pow 256 i % 256)
  t ++ '\x80' :: List.replicate zeros '\x00' ++ if isBigEndian then digits.reverse else digits

/-- The number that some bytes are, the most significant one first. -/
def big (t : Text) : Nat := t.foldl (fun n c => n * 256 + c.toNat) 0

/-- A text cut into pieces of a size. -/
def pieces (size : Nat) : Nat → Text → List Text
  | 0, _ => []
  | n + 1, t => if t.isEmpty then [] else t.take size :: pieces size n (t.drop size)

/-- The pieces of a text. -/
def cut (size : Nat) (t : Text) : List Text := pieces size (t.length + 1) t

/-- A number in base 16 with all its digits. -/
def hexadecimal (digits n : Nat) : Text :=
  let t := Text.numeral 16 n
  List.replicate (digits - t.length) '0' ++ t

/-! ### The second family -/

/-- A word turned to the right. -/
def turned (bits w k : Nat) : Nat := w / Nat.pow 2 k ||| w * Nat.pow 2 (bits - k) % Nat.pow 2 bits

/-- What the rounds of the second family share: the size of words, how many rounds there are, and by
how much words are turned. -/
structure Family where
  bits : Nat
  rounds : Nat
  large0 : List Nat
  large1 : List Nat
  small0 : List Nat × Nat
  small1 : List Nat × Nat

/-- The family with short words. -/
def shortFamily : Family := ⟨32, 64, [2, 13, 22], [6, 11, 25], ([7, 18], 3), ([17, 19], 10)⟩

/-- The family with long words. -/
def longFamily : Family := ⟨64, 80, [28, 34, 39], [14, 18, 41], ([1, 8], 7), ([19, 61], 6)⟩

/-- A word turned in several ways and mixed. -/
def Family.mixed (f : Family) (w : Nat) (turns : List Nat) : Nat :=
  turns.foldl (fun n k => Nat.xor n (turned f.bits w k)) 0

/-- The words of all rounds, from those of a block. -/
def Family.schedule (f : Family) (block : Array Nat) : Array Nat :=
  (List.range (f.rounds - 16)).foldl (fun ws i =>
    let at_ (k : Nat) : Nat := ws.getD k 0
    let small (s : List Nat × Nat) (w : Nat) : Nat :=
      Nat.xor (f.mixed w s.1) (w / Nat.pow 2 s.2)
    ws.push ((at_ i + small f.small0 (at_ (i + 1)) + at_ (i + 9) + small f.small1 (at_ (i + 14))) %
      Nat.pow 2 f.bits)) block

/-- Take up a block. -/
def Family.absorb (f : Family) (constants : Array Nat) (state : List Nat) (block : Text) :
    List Nat :=
  let words := f.schedule ((cut (f.bits / 8) block).map big).toArray
  let modulus := Nat.pow 2 f.bits
  let last := (List.range f.rounds).foldl (fun (s : List Nat) i =>
    match s with
    | [a, b, c, d, e, g, h, k] =>
      let choice := Nat.xor (e &&& g) ((modulus - 1 - e) &&& h)
      let t₁ := k + f.mixed e f.large1 + choice + constants.getD i 0 + words.getD i 0
      let majority := Nat.xor (Nat.xor (a &&& b) (a &&& c)) (b &&& c)
      let t₂ := f.mixed a f.large0 + majority
      [(t₁ + t₂) % modulus, a, b, c, (d + t₁) % modulus, e, g, h]
    | s => s) state
  (state.zip last).map fun (x, y) => (x + y) % modulus

/-- The digest of a text. -/
def Family.digest (f : Family) (start : List Nat) (size : Nat) (t : Text) : Text :=
  let block := f.bits * 2
  let constants := ((primes f.rounds).map (rootBits 3 f.bits)).toArray
  let blocks := cut block (padded block (f.bits / 4) true t)
  ((blocks.foldl (f.absorb constants) start).flatMap (hexadecimal (f.bits / 4))).take size

/-- The digest of 256 bits. -/
def sha256 : Text → Text := shortFamily.digest ((primes 8).map (rootBits 2 32)) 64

/-- The digest of 512 bits. -/
def sha512 : Text → Text := longFamily.digest ((primes 8).map (rootBits 2 64)) 128

/-- The digest of 384 bits. -/
def sha384 : Text → Text := longFamily.digest (((primes 16).drop 8).map (rootBits 2 64)) 96

/-! ### The first family -/

/-- The first part of a round of the first family by its number, and its constant. -/
def firstRound (i b c d : Nat) : Nat × Nat :=
  let not_ (n : Nat) : Nat := Nat.pow 2 32 - 1 - n
  if i < 20 then ((b &&& c) ||| (not_ b &&& d), 0x5a827999)
  else if i < 40 then (Nat.xor (Nat.xor b c) d, 0x6ed9eba1)
  else if i < 60 then ((b &&& c) ||| (b &&& d) ||| (c &&& d), 0x8f1bbcdc)
  else (Nat.xor (Nat.xor b c) d, 0xca62c1d6)

/-- Take up a block in the first family. -/
def firstAbsorb (state : List Nat) (block : Text) : List Nat :=
  let words := (List.range 64).foldl (fun (ws : Array Nat) i =>
    let at_ (k : Nat) : Nat := ws.getD (i + k) 0
    ws.push (turned 32 (Nat.xor (Nat.xor (at_ 13) (at_ 8)) (Nat.xor (at_ 2) (at_ 0))) 31))
    ((cut 4 block).map big).toArray
  let last := (List.range 80).foldl (fun (s : List Nat) i =>
    match s with
    | [a, b, c, d, e] =>
      let (f, k) := firstRound i b c d
      [(turned 32 a 27 + f + e + k + words.getD i 0) % Nat.pow 2 32, a, turned 32 b 2, c, d]
    | s => s) state
  (state.zip last).map fun (x, y) => (x + y) % Nat.pow 2 32

/-- The digest of 160 bits. -/
def sha1 (t : Text) : Text :=
  ((cut 64 (padded 64 8 true t)).foldl firstAbsorb
    [0x67452301, 0xefcdab89, 0x98badcfe, 0x10325476, 0xc3d2e1f0]).flatMap (hexadecimal 8)

/-! ### The oldest one -/

/-- The constants of the rounds of the oldest digest. -/
def sines : Array Nat :=
  #[0xd76aa478, 0xe8c7b756, 0x242070db, 0xc1bdceee, 0xf57c0faf, 0x4787c62a, 0xa8304613, 0xfd469501,
    0x698098d8, 0x8b44f7af, 0xffff5bb1, 0x895cd7be, 0x6b901122, 0xfd987193, 0xa679438e, 0x49b40821,
    0xf61e2562, 0xc040b340, 0x265e5a51, 0xe9b6c7aa, 0xd62f105d, 0x02441453, 0xd8a1e681, 0xe7d3fbc8,
    0x21e1cde6, 0xc33707d6, 0xf4d50d87, 0x455a14ed, 0xa9e3e905, 0xfcefa3f8, 0x676f02d9, 0x8d2a4c8a,
    0xfffa3942, 0x8771f681, 0x6d9d6122, 0xfde5380c, 0xa4beea44, 0x4bdecfa9, 0xf6bb4b60, 0xbebfbc70,
    0x289b7ec6, 0xeaa127fa, 0xd4ef3085, 0x04881d05, 0xd9d4d039, 0xe6db99e5, 0x1fa27cf8, 0xc4ac5665,
    0xf4292244, 0x432aff97, 0xab9423a7, 0xfc93a039, 0x655b59c3, 0x8f0ccc92, 0xffeff47d, 0x85845dd1,
    0x6fa87e4f, 0xfe2ce6e0, 0xa3014314, 0x4e0811a1, 0xf7537e82, 0xbd3af235, 0x2ad7d2bb, 0xeb86d391]

/-- The mixture of a round of the oldest digest, the word that it uses, and the turns. -/
def oldestRound (i b c d : Nat) : Nat × Nat × Nat :=
  let not_ (n : Nat) : Nat := Nat.pow 2 32 - 1 - n
  let turn (turns : List Nat) : Nat := turns.getD (i % 4) 0
  if i < 16 then ((b &&& c) ||| (not_ b &&& d), i, turn [7, 12, 17, 22])
  else if i < 32 then ((d &&& b) ||| (not_ d &&& c), (5 * i + 1) % 16, turn [5, 9, 14, 20])
  else if i < 48 then (Nat.xor (Nat.xor b c) d, (3 * i + 5) % 16, turn [4, 11, 16, 23])
  else (Nat.xor c (b ||| not_ d), 7 * i % 16, turn [6, 10, 15, 21])

/-- Take up a block in the oldest digest. -/
def oldestAbsorb (state : List Nat) (block : Text) : List Nat :=
  let words := ((cut 4 block).map fun w => big w.reverse).toArray
  let last := (List.range 64).foldl (fun (s : List Nat) i =>
    match s with
    | [a, b, c, d] =>
      let (f, k, turn) := oldestRound i b c d
      let sum := (a + f + sines.getD i 0 + words.getD k 0) % Nat.pow 2 32
      [d, (b + turned 32 sum (32 - turn)) % Nat.pow 2 32, b, c]
    | s => s) state
  (state.zip last).map fun (x, y) => (x + y) % Nat.pow 2 32

/-- The digest of 128 bits. -/
def md5 (t : Text) : Text :=
  let state := (cut 64 (padded 64 8 false t)).foldl oldestAbsorb
    [0x67452301, 0xefcdab89, 0x98badcfe, 0x10325476]
  state.flatMap fun w =>
    (List.range 4).flatMap fun i => hexadecimal 2 (w / Nat.pow 256 i % 256)

/-! ### A sum -/

/-- Divide one more byte by the polynomial of the sum. -/
def sumByte (sum byte : Nat) : Nat :=
  (List.range 8).foldl (fun s _ =>
    let s' := s * 2 % Nat.pow 2 32
    if s < Nat.pow 2 31 then s' else Nat.xor s' 0x04c11db7) (Nat.xor sum (byte * Nat.pow 2 24))

/-- The bytes of a length, the least significant one first, without zeros at the end. -/
def lengthBytes : Nat → Nat → List Nat
  | 0, _ => []
  | n + 1, size => if size = 0 then [] else size % 256 :: lengthBytes n (size / 256)

/-- The sum of a text and its length. -/
def checksum (t : Text) : Nat :=
  let sum := t.foldl (fun s c => sumByte s c.toNat) 0
  Nat.pow 2 32 - 1 - (lengthBytes 8 t.length).foldl sumByte sum

end Digest

namespace Tool

/-- Read an operand whole. -/
def contentsOf? (word : Text) : Tool (Option Text) := do
  match ← openInput word with
  | .error e =>
    cannotRead word e
    return none
  | .ok fd =>
    let (t, e?) ← readAll fd
    closeInput fd
    match e? with
    | some e =>
      cannotRead word e
      return none
    | none => return some t

/-- The digest and the name that a line tells of. -/
def digestLine? (line : Text) : Option (Text × Text) :=
  let digest := line.takeWhile (Text.isDigitOf 16)
  match line.drop digest.length with
  | ' ' :: c :: name =>
    if (c == ' ' || c == '*') && !digest.isEmpty && !name.isEmpty then
      some (digest.map Char.toLower, name)
    else none
  | _ => none

/-- A count of things with a verb. -/
def counted (n : Nat) (one many : String) : Text :=
  Text.decimal n ++ ' ' :: (if n = 1 then one else many).toList

/-- Check the digests in a list. -/
def checkDigests (a : Arguments) (digest : Text → Text) (word : Text) : Tool Unit := do
  match ← contentsOf? word with
  | none => return
  | some t =>
    let lines := linesOf '\n' t
    let found := lines.filterMap digestLine?
    let bad := lines.length - found.length
    if found.isEmpty then
      fault (quotedIfNeeded word ++ ": no properly formatted checksum lines found".toList)
    else
      let mut unread := 0
      let mut wrong := 0
      for (wanted, name) in found do
        match ← contentsOf? name with
        | none =>
          unread := unread + 1
          if !a.has '1' then printLine (name ++ ": FAILED open or read".toList)
        | some t =>
          if digest t == wanted then
            if !a.has '1' && !a.has '2' then printLine (name ++ ": OK".toList)
          else
            wrong := wrong + 1
            if !a.has '1' then printLine (name ++ ": FAILED".toList)
      flush
      if 0 < unread || 0 < wrong then setStatus 1
      if !a.has '1' then
        if 0 < bad then
          warn ("WARNING: ".toList ++
            counted bad "line is improperly formatted" "lines are improperly formatted")
        if 0 < unread then
          warn ("WARNING: ".toList ++
            counted unread "listed file could not be read" "listed files could not be read")
        if 0 < wrong then
          warn ("WARNING: ".toList ++
            counted wrong "computed checksum did NOT match" "computed checksums did NOT match")

/-- Print or check digests. -/
def digests (digest : Text → Text) (all : List Text) : Tool Unit := do
  let a ← arguments 1 false "bctwz" [long "check" 'c' .nothing, long "status" '1' .nothing,
    long "quiet" '2' .nothing, long "binary" 'b' .nothing, long "text" 't' .nothing,
    long "zero" 'z' .nothing] all
  for word in orInput a.operands do
    if a.has 'c' then checkDigests a digest word
    else
      match ← contentsOf? word with
      | some t =>
        let mark := if a.last? "bt" == some 'b' then " *" else "  "
        print (digest t ++ mark.toList ++ word ++ [if a.has 'z' then '\x00' else '\n'])
      | none => pure ()

/-- Print sums. -/
def cksum (all : List Text) : Tool Unit := do
  let a ← arguments 1 false "" [] all
  for word in orInput a.operands do
    match ← contentsOf? word with
    | some t =>
      printLine (Text.decimal (Digest.checksum t) ++ ' ' :: Text.decimal t.length ++
        if a.operands.isEmpty then [] else ' ' :: word)
    | none => pure ()

end Tool
end RuleSets.Utility
