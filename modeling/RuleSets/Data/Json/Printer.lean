import RuleSets.Data.Value
import RuleSets.Text.Numeral

/-!
# Writing JSON

The indented form: two spaces a level, one item or field a line, an empty list or object on one
line.
-/

namespace RuleSets.Json

/-- The two hexadecimal digits of a byte. -/
def hexByte (n : Nat) : Text := [(n / 16).digitChar, (n % 16).digitChar]

/-- How a character stands in a quoted string. -/
def escapeChar (c : Char) : Text :=
  if c = '"' then ['\\', '"']
  else if c = '\\' then ['\\', '\\']
  else if c = '\n' then ['\\', 'n']
  else if c = '\r' then ['\\', 'r']
  else if c = '\t' then ['\\', 't']
  else if c = '\x08' then ['\\', 'b']
  else if c = '\x0c' then ['\\', 'f']
  else if c.toNat < 0x20 then ['\\', 'u', '0', '0'] ++ hexByte c.toNat
  else [c]

/-- A quoted string. -/
def quote (s : Text) : Text := '"' :: s.flatMap escapeChar ++ ['"']

/-- A line break and the indentation of a level. -/
def newline (level : Nat) : Text := '\n' :: List.replicate (2 * level) ' '

mutual

/-- The written form of a value whose first line is already indented. -/
def print (level : Nat) : Value → Text
  | .null => "null".toList
  | .bool true => "true".toList
  | .bool false => "false".toList
  | .int n => Text.decimalInt n
  | .float spelling => spelling
  | .string s => quote s
  | .list [] => ['[', ']']
  | .list (v :: vs) =>
    '[' :: newline (level + 1) ++ print (level + 1) v ++ printItems (level + 1) vs ++
      newline level ++ [']']
  | .object [] => ['{', '}']
  | .object ((k, v) :: fs) =>
    '{' :: newline (level + 1) ++ quote k ++ [':', ' '] ++ print (level + 1) v ++
      printFields (level + 1) fs ++ newline level ++ ['}']

/-- The items after the first. -/
def printItems (level : Nat) : List Value → Text
  | [] => []
  | v :: vs => ',' :: newline level ++ print level v ++ printItems level vs

/-- The fields after the first. -/
def printFields (level : Nat) : List (Text × Value) → Text
  | [] => []
  | (k, v) :: fs =>
    ',' :: newline level ++ quote k ++ [':', ' '] ++ print level v ++ printFields level fs

end

/-- The written form of a value as a whole text. -/
def render (v : Value) : Text := print 0 v

end RuleSets.Json
