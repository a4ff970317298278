import RuleSets.Text.Utf8

/-!
# Bytes as text

Programs work on bytes, whatever they mean.  A raw text has a character for every byte, the one with
the byte's number.
-/

namespace RuleSets.Text

/-- The raw text of bytes. -/
def ofBytes (bs : Bytes) : Text := bs.map fun b => Char.ofNat b.toNat

/-- The bytes of a raw text. -/
def toBytes (s : Text) : Bytes := s.map fun c => UInt8.ofNat c.toNat

/-- The raw text of the bytes that encode a text. -/
def toRaw (s : Text) : Text := ofBytes (Utf8.encode s)

/-- What the bytes of a raw text encode. -/
def ofRaw (s : Text) : Text := Utf8.decodeLossy (toBytes s)

/-- Which of two raw texts comes first when their bytes are compared. -/
def order : Text → Text → Ordering
  | [], [] => .eq
  | [], _ => .lt
  | _, [] => .gt
  | c :: s, d :: t => if c < d then .lt else if d < c then .gt else order s t

/-- Raw texts in the order of their bytes. -/
def sorted (ts : List Text) : List Text := ts.mergeSort fun s t => order s t != .gt

end RuleSets.Text
