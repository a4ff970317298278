import RuleSets.Data.Yaml.Token
import RuleSets.Text.Numeral

/-!
# Anchors, tags and directives

Reading the properties of a node and the directives before a document.  A tag is kept as bytes,
since its escapes may spell any.
-/

namespace RuleSets.Yaml

/-! ### Anchors -/

/-- Whether the name of an anchor or an alias may end here. -/
def atNameEnd (s : Text) : Bool :=
  atGap s || s.head?.any fun c =>
    c == '?' || c == ':' || c == ',' || c == ']' || c == '}' || c == '%' || c == '@' || c == '\x60'

/-- The name of an anchor or an alias. -/
def readName? (s : Text) : Option (Text × Text) :=
  let name := s.takeWhile isWord
  let r := s.dropWhile isWord
  if name.isEmpty || !atNameEnd r then none else some (name, r)

/-! ### Tags -/

/-- Whether a character may stand in a tag.  Inside angle brackets three flow indicators
may, too. -/
def isTagChar (bracketed : Bool) (c : Char) : Bool :=
  isWord c || c == ';' || c == '/' || c == '?' || c == ':' || c == '@' || c == '&' || c == '=' ||
  c == '+' || c == '$' || c == '.' || c == '%' || c == '!' || c == '~' || c == '*' || c == '\'' ||
  c == '(' || c == ')' || (bracketed && (c == ',' || c == '[' || c == ']'))

/-- How many continuation bytes a leading byte of an escape announces. -/
def continuations? (n : Nat) : Option Nat :=
  if n < 0x80 then some 0
  else if 0xC0 ≤ n ∧ n < 0xE0 then some 1
  else if 0xE0 ≤ n ∧ n < 0xF0 then some 2
  else if 0xF0 ≤ n ∧ n < 0xF8 then some 3
  else none

/-- The characters of a tag as bytes.  `missing` continuation bytes must be escaped next. -/
def readTagChars? (bracketed : Bool) : Nat → Text → Option (Bytes × Text)
  | missing, [] => if missing = 0 then some ([], []) else none
  | missing, '%' :: a :: b :: s =>
    if !(Text.isDigitOf 16 a && Text.isDigitOf 16 b) then none
    else
      let n := Text.valueOf 16 [a, b]
      let next? :=
        match missing with
        | 0 => continuations? n
        | missing + 1 => if 0x80 ≤ n ∧ n < 0xC0 then some missing else none
      match next? with
      | none => none
      | some missing =>
        (readTagChars? bracketed missing s).map fun (bs, r) => (UInt8.ofNat n :: bs, r)
  | missing, c :: s =>
    if missing ≠ 0 || c == '%' then none
    else if isTagChar bracketed c then
      (readTagChars? bracketed 0 s).map fun (bs, r) => (Utf8.encode [c] ++ bs, r)
    else some ([], c :: s)

/-- The part of a tag that counts: a zero byte ends it. -/
def tagName (bs : Bytes) : Bytes := bs.takeWhile (· != 0)

/-- A tag's characters, of which there must be one. -/
def readTagText? (bracketed : Bool) (s : Text) : Option (Bytes × Text) :=
  match readTagChars? bracketed 0 s with
  | none | some ([], _) => none
  | some (bs, r) => some (tagName bs, r)

/-- The handle at the start of a tag: an exclamation mark, word characters and perhaps
another mark. -/
def readHandle? : Text → Option (Text × Text)
  | '!' :: s =>
    let name := s.takeWhile isWord
    match s.dropWhile isWord with
    | '!' :: r => some ('!' :: name ++ ['!'], r)
    | r => some ('!' :: name, r)
  | _ => none

/-- A tag as a handle and the rest.  The handle is empty for a tag in angle brackets and for a lone
exclamation mark. -/
def readTag? (s : Text) : Option (Text × Bytes × Text) :=
  match s with
  | '!' :: '<' :: r =>
    match readTagText? true r with
    | some (bs, '>' :: r) => some ([], bs, r)
    | _ => none
  | _ =>
    match readHandle? s with
    | none => none
    | some (handle, r) =>
      if handle.length ≠ 1 && handle.getLast? == some '!' then
        (readTagText? false r).map fun (bs, r) => (handle, bs, r)
      else
        match readTagChars? false 0 r with
        | none => none
        | some (bs, r) =>
          let bs := tagName (Utf8.encode (handle.drop 1) ++ bs)
          if bs.isEmpty then some ([], Utf8.encode ['!'], r) else some (['!'], bs, r)

/-- Whether a tag may end here. -/
def atTagEnd (flow : Bool) (s : Text) : Bool := atGap s || (flow && s.head? == some ',')

/-! ### Directives -/

/-- A row of one to nine digits. -/
def readVersionNumber? (s : Text) : Option (Nat × Text) :=
  let ds := s.takeWhile Char.isDigit
  if ds.isEmpty || 9 < ds.length then none
  else some (Text.valueOf 10 ds, s.dropWhile Char.isDigit)

/-- The value of a version directive. -/
def readVersion? (s : Text) : Option (Token × Text) :=
  match readVersionNumber? (s.dropWhile isSpace) with
  | some (major, '.' :: r) =>
    (readVersionNumber? r).map fun (minor, r) => (.version major minor, r)
  | _ => none

/-- The value of a tag directive: a handle and what it stands for. -/
def readTagDirective? (s : Text) : Option (Token × Text) :=
  match readHandle? (s.dropWhile isSpace) with
  | none => none
  | some (handle, r) =>
    if (handle.length ≠ 1 && handle.getLast? != some '!') || !(r.head?.any isSpace) then none
    else
      match readTagText? true (r.dropWhile isSpace) with
      | none => none
      | some (bs, r) => if atGap r then some (.tagDirective handle bs, r) else none

/-- A directive after its percent sign, up to the end of its value. -/
def readDirective? (s : Text) : Option (Token × Text) :=
  let name := s.takeWhile isWord
  let r := s.dropWhile isWord
  if !atGap r then none
  else if name == "YAML".toList then readVersion? r
  else if name == "TAG".toList then readTagDirective? r
  else none

end RuleSets.Yaml
