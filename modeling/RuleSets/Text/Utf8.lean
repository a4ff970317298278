import RuleSets.Text.Basic

/-!
# UTF-8

Encoding a text, and decoding bytes by a machine that reads one byte at a time.  Decoding marks
every maximal ill-formed part once, so that a strict reader can refuse it and a lenient one can put
a replacement character in its place.
-/

namespace RuleSets

/-- The contents of a file. -/
abbrev Bytes := List UInt8

namespace Utf8

/-- The bytes of a text. -/
def encode (s : Text) : Bytes := s.flatMap String.utf8EncodeChar

/-- A character of which some bytes are still missing: the bits so far, the bounds of the next byte
and the number of bytes after that one. -/
structure Partial where
  bits : Nat
  low : Nat
  high : Nat
  more : Nat

/-- What a leading byte announces, if it may lead at all. -/
def lead? (b : Nat) : Option Partial :=
  if 0xC2 ≤ b ∧ b ≤ 0xDF then some ⟨b - 0xC0, 0x80, 0xBF, 0⟩
  else if b = 0xE0 then some ⟨0, 0xA0, 0xBF, 1⟩
  else if b = 0xED then some ⟨0xD, 0x80, 0x9F, 1⟩
  else if 0xE1 ≤ b ∧ b ≤ 0xEF then some ⟨b - 0xE0, 0x80, 0xBF, 1⟩
  else if b = 0xF0 then some ⟨0, 0x90, 0xBF, 2⟩
  else if 0xF1 ≤ b ∧ b ≤ 0xF3 then some ⟨b - 0xF0, 0x80, 0xBF, 2⟩
  else if b = 0xF4 then some ⟨4, 0x80, 0x8F, 2⟩
  else none

/-- The characters of a byte sequence, with `none` for every maximal ill-formed part. -/
def decodeFrom : Option Partial → Bytes → List (Option Char)
  | none, [] => []
  | some _, [] => [none]
  | state, b :: bs =>
    let n := b.toNat
    let fresh (_ : Unit) :=
      if n < 0x80 then some (Char.ofNat n) :: decodeFrom none bs
      else
        match lead? n with
        | some p => decodeFrom (some p) bs
        | none => none :: decodeFrom none bs
    match state with
    | none => fresh ()
    | some p =>
      if p.low ≤ n ∧ n ≤ p.high then
        let bits := p.bits * 64 + (n - 0x80)
        match p.more with
        | 0 => some (Char.ofNat bits) :: decodeFrom none bs
        | more + 1 => decodeFrom (some ⟨bits, 0x80, 0xBF, more⟩) bs
      else none :: fresh ()

/-- The text of well-formed bytes. -/
def decode? (bs : Bytes) : Option Text := (decodeFrom none bs).mapM id

/-- The text of any bytes, with a replacement character for every maximal ill-formed part. -/
def decodeLossy (bs : Bytes) : Text := (decodeFrom none bs).map fun c => c.getD '\ufffd'

end Utf8
end RuleSets
