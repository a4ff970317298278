import RuleSets.Text.Character

/-!
# Patterns

A pattern is a text of which some characters are marked as quoted.  A star that is not quoted
matches any text, a question mark any character, brackets one of some characters, and a backslash
takes the meaning from what follows it; all else matches itself.
-/

namespace RuleSets.Shell

/-- A character, and whether it was quoted. -/
structure Mark where
  char : Char
  isQuoted : Bool
deriving DecidableEq, Repr

/-- A text with every character marked alike. -/
def marked (isQuoted : Bool) (s : Text) : List Mark := s.map (⟨·, isQuoted⟩)

/-- The characters of a marked text. -/
def unmarked (s : List Mark) : Text := s.map (·.char)

/-- Whether a mark is a character without quotes. -/
def Mark.isBare (m : Mark) (c : Char) : Bool := m.char == c && !m.isQuoted

/-- The class of characters that is named between `[:` and `:]` at the start of a pattern, and what
follows it. -/
def classAt? (p : List Mark) : Option ((Char → Bool) × List Mark) :=
  match p with
  | a :: b :: rest =>
    if a.isBare '[' && b.isBare ':' then
      let name := rest.takeWhile fun m => m.char.isAlpha
      match rest.drop name.length, Text.characterClass? (unmarked name) with
      | c :: d :: rest, some p => if c.isBare ':' && d.isBare ']' then some (p, rest) else none
      | _, _ => none
    else none
  | _ => none

/-- The character at the start of a pattern, of which a backslash takes the meaning. -/
def literalAt? : List Mark → Option (Mark × List Mark)
  | [] => none
  | m :: rest =>
    if m.isBare '\\' then
      match rest with
      | [] => some (m, [])
      | n :: rest => some ({ n with isQuoted := true }, rest)
    else some (m, rest)

/-- Whether a character is among those listed up to a closing bracket, and what follows the
bracket.  The first bracket in the list is no end of it. -/
def brackets? (c : Char) : Nat → Bool → Bool → List Mark → Option (Bool × List Mark)
  | 0, _, _, _ => none
  | n + 1, isFirst, found, p =>
    match classAt? p with
    | some (isIn, rest) => brackets? c n false (found || isIn c) rest
    | none =>
      match literalAt? p with
      | none => none
      | some (m, rest) =>
        if m.isBare ']' && !isFirst then some (found, rest)
        else
          match rest with
          | dash :: rest' =>
            if dash.isBare '-' && !(rest'.head?.any (·.isBare ']')) then
              match literalAt? rest' with
              | some (last, rest) =>
                brackets? c n false (found || (m.char ≤ c && c ≤ last.char)) rest
              | none => none
            else brackets? c n false (found || m.char == c) rest
          | [] => none

/-- Whether a character satisfies the brackets behind an opening bracket, and what follows them. -/
def bracketed? (c : Char) (p : List Mark) : Option (Bool × List Mark) :=
  let isNegated := p.head?.any fun m => m.isBare '!'
  let p := if isNegated then p.drop 1 else p
  (brackets? c (p.length + 1) true false p).map fun (found, rest) => (found != isNegated, rest)

/-- Whether a pattern matches a whole text; fuel bounds the number of steps. -/
def matchesWithin : Nat → List Mark → Text → Bool
  | _, [], s => s.isEmpty
  | 0, _, _ => false
  | n + 1, m :: p, s =>
    if m.isBare '*' then
      matchesWithin n p s || (match s with | [] => false | _ :: s => matchesWithin n (m :: p) s)
    else
      match s with
      | [] => false
      | c :: s =>
        let literal (m : Mark) (p : List Mark) : Bool := m.char == c && matchesWithin n p s
        if m.isBare '?' then matchesWithin n p s
        else if m.isBare '[' then
          match bracketed? c p with
          | some (isIn, p) => isIn && matchesWithin n p s
          | none => literal m p
        else
          match literalAt? (m :: p) with
          | some (m, p) => literal m p
          | none => false

/-- Whether a pattern matches a whole text. -/
def patternMatches (p : List Mark) (s : Text) : Bool :=
  if p.any (fun m => !m.isQuoted && "*?[\\".toList.contains m.char) then
    matchesWithin (p.length + s.length + 1) p s
  else unmarked p == s

/-- The numbers of characters that can be cut off a text of a length, in the order in which they
are tried. -/
def cuts (longest : Bool) (length : Nat) : List Nat :=
  let all := List.range (length + 1)
  if longest then all.reverse else all

/-- Take off what a pattern matches at one end of a text. -/
def trimPattern (atEnd longest : Bool) (p : List Mark) (s : Text) : Text :=
  let rest (k : Nat) : Text := if atEnd then s.take (s.length - k) else s.drop k
  let cut (k : Nat) : Text := if atEnd then s.drop (s.length - k) else s.take k
  match (cuts longest s.length).find? fun k => patternMatches p (cut k) with
  | some k => rest k
  | none => s

end RuleSets.Shell
