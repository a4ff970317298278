import RuleSets.Shell.Pattern

/-!
# Fields

What a word expands to is split into fields.  Text from a parameter without quotes is split at
separators: blanks among them count once however many there are, and not at the ends of a field;
every other separator counts.  All else stays together.
-/

namespace RuleSets.Shell

/-- A part of what a word expands to. -/
inductive Segment where
  /-- Text that is not split; even if it is empty, there is a field. -/
  | fixed (marks : List Mark)
  /-- Texts that are split; there is a border between two of them. -/
  | split (texts : List Text)
  /-- Texts that are fields of their own, but for the first and the last, which stay with what is
  around them. -/
  | apart (texts : List Text)

/-- A region of characters that are treated alike, with `none` for a border. -/
structure Region where
  characters : List (Option Mark)
  /-- Whether separators split it. -/
  isSplit : Bool
  /-- Whether its borders split it. -/
  isApart : Bool

/-- The region of a segment. -/
def Segment.region : Segment → Region
  | fixed marks => ⟨marks.map some, false, false⟩
  | split texts => ⟨bordered texts, true, false⟩
  | apart texts => ⟨bordered texts, false, true⟩
where
  /-- Texts with borders between them. -/
  bordered (texts : List Text) : List (Option Mark) :=
    ((texts.map fun t => t.map fun c => some ⟨c, false⟩).intersperse [none]).flatten

/-- What has been split so far, the latest first. -/
structure Fields where
  done : List (List Mark)
  current : List Mark
  /-- Whether there is anything in the current field, be it quotation marks. -/
  isPresent : Bool
  /-- Whether a blank has just ended a field. -/
  afterBlank : Bool
  /-- How many fields may follow, the current one included, if there is a limit. -/
  left? : Option Nat
  /-- The current field without separators at its end. -/
  trimmed? : Option (List Mark)
  /-- Whether the last region had borders that split it. -/
  wasApart : Bool

namespace Fields

/-- No fields. -/
def start (most? : Option Nat) : Fields := ⟨[], [], false, false, most?, none, false⟩

/-- Put a character into the current field. -/
def put (f : Fields) (m : Mark) : Fields :=
  { f with current := m :: f.current, isPresent := true, afterBlank := false }

/-- Begin a field. -/
def next (f : Fields) (afterBlank : Bool) : Fields :=
  { f with
    done := f.current.reverse :: f.done, current := [], isPresent := false, afterBlank := afterBlank }

/-- Take up a character where no more fields may follow: separators at the end are dropped, but for
more than one that is no blank. -/
def putLast (f : Fields) (m : Mark) (isSeparator isBlank : Bool) : Fields :=
  let f' := { f with current := m :: f.current, isPresent := true }
  if isBlank then { f' with trimmed? := some (f.trimmed?.getD f.current) }
  else
    { f' with
      trimmed? := if isSeparator && f.afterBlank then f.trimmed? else none, afterBlank := false }

/-- Take up a character, or a border, of a region that is split. -/
def take (separators : Text) (wasApart : Bool) (f : Fields) (c? : Option Mark) : Fields :=
  let isSeparator := c?.all fun m => separators.contains m.char
  let isBlank := isSeparator && c?.all fun m => " \t\n".toList.contains m.char
  let m := c?.getD ⟨'\x00', false⟩
  if f.left? == some 0 then f.putLast m isSeparator isBlank
  else if f.afterBlank && isSeparator then { f with afterBlank := isBlank }
  else if !isSeparator then f.put m
  else if !f.isPresent && isBlank && !wasApart then f
  else if f.left? == some 1 then
    { f with
      current := m :: f.current, isPresent := true, left? := some 0, trimmed? := some f.current
      afterBlank := isBlank && !wasApart }
  else { f.next (isBlank && !wasApart) with left? := f.left?.map (· - 1) }

/-- Take up a region. -/
def region (separators : Text) (f : Fields) (r : Region) : Fields :=
  let f' := { f with afterBlank := false }
  if r.isSplit then
    { r.characters.foldl (take separators f.wasApart) f' with wasApart := false }
  else
    let f' := r.characters.foldl (fun f c? => match c? with | some m => f.put m | none => f.next false) f'
    if r.isApart then { f' with wasApart := true }
    else { f' with isPresent := true }

/-- All fields. -/
def finish (f : Fields) : List (List Mark) :=
  let last := (f.trimmed?.getD f.current).reverse
  let isThere := if f.trimmed?.isSome then !last.isEmpty else f.isPresent
  (if isThere || f.wasApart then last :: f.done else f.done).reverse

end Fields

/-- The fields of regions, at most as many as a limit allows. -/
def split (separators : Text) (most? : Option Nat) (regions : List Region) : List (List Mark) :=
  (regions.foldl (Fields.region separators) (Fields.start most?)).finish

end RuleSets.Shell
