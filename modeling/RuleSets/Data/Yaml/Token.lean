import RuleSets.Data.Yaml.Character
import RuleSets.Text.Utf8

/-!
# Tokens of YAML

What a stream is cut into.  The structure of block collections is carried by tokens of its own,
which the scanner derives from indentation.
-/

namespace RuleSets.Yaml

/-- A place in a stream: the number of characters and of lines before it, and the column. -/
structure Position where
  index : Nat
  line : Nat
  column : Nat
deriving DecidableEq, Repr

namespace Position

/-- The start of a stream. -/
def start : Position := ⟨0, 0, 0⟩

/-- After `n` more characters on the same line. -/
def right (p : Position) (n : Nat) : Position := ⟨p.index + n, p.line, p.column + n⟩

/-- After a line break of `n` characters. -/
def newline (p : Position) (n : Nat) : Position := ⟨p.index + n, p.line + 1, 0⟩

end Position

/-- The unit of the grammar. -/
inductive Token where
  | version (major minor : Nat)
  | tagDirective (handle : Text) (start : Bytes)
  | documentStart
  | documentEnd
  | blockSequenceStart
  | blockMappingStart
  | blockEnd
  | flowSequenceStart
  | flowSequenceEnd
  | flowMappingStart
  | flowMappingEnd
  | blockEntry
  | flowEntry
  | key
  | value
  | reference (name : Text)
  | anchor (name : Text)
  | tag (handle : Text) (rest : Bytes)
  | scalar (plain : Bool) (text : Text)
deriving DecidableEq, Repr

end RuleSets.Yaml
