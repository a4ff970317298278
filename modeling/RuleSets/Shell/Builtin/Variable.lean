import RuleSets.Shell.Option
import RuleSets.Shell.Search

/-!
# Commands on variables

The commands that set, list and take away variables, arguments and aliases.
-/

namespace RuleSets.Shell.Sh

/-- A text in single quotes; the single quotes in it stand in double quotes. -/
def singleQuoted (t : Text) : Text := go (t.length + 1) t
where
  go : Nat → Text → Text
    | 0, _ => []
    | n + 1, t =>
      let before := t.takeWhile (· != '\'')
      let rest := t.drop before.length
      let quotes := rest.takeWhile (· == '\'')
      let rest := rest.drop quotes.length
      '\'' :: before ++ ['\''] ++
        (if quotes.isEmpty then []
        else '"' :: quotes ++ ['"'] ++ (if rest.isEmpty then [] else go n rest))

/-- List variables in the order of their names. -/
def listVariables (command : Text) (p : Variable → Bool) (withUnset : Bool) : Sh Nat := do
  let lead := if command.isEmpty then [] else command ++ [' ']
  let lines := (← get).bindings.filterMap fun (name, v) =>
    if !p v then none
    else
      match v.value? with
      | some value => some (name, lead ++ name ++ '=' :: singleQuoted value)
      | none => if withUnset then some (name, lead ++ name) else none
  let lines := lines.mergeSort fun a b => Text.order a.1 b.1 != .gt
  for (_, line) in lines do printLine line
  return 0

/-- The name and the value in an argument that may be an assignment. -/
def splitAssignment (word : Text) : Text × Option Text :=
  let name := word.takeWhile (· != '=')
  match word.drop name.length with
  | [] => (name, none)
  | _ :: value => (name, some value)

/-- Complain about what is no name. -/
def requireName (name : Text) : Sh Unit := do
  if !isName name then fail (name ++ ": bad variable name".toList)

/-- Change a variable, set or not. -/
def alter (name : Text) (f : Variable → Variable) : Sh Unit := do
  put name (some (f ((← known? name).getD ⟨none, false, false⟩)))

/-- Set variables and mark them. -/
def mark (command : String) (isMarked : Variable → Bool) (f : Variable → Variable)
    (arguments : List Text) : Sh Nat := do
  let (found, rest) ← options "p" arguments
  if !found.isEmpty || rest.isEmpty then listVariables command.toList isMarked true
  else
    for word in rest do
      let (name, value?) := splitAssignment word
      requireName name
      match value? with
      | some value => assign name value
      | none => pure ()
      alter name f
    return 0

/-- Mark variables so that programs get them. -/
def export_ : List Text → Sh Nat :=
  mark "export" (·.isExported) fun v => { v with isExported := true }

/-- Mark variables so that they cannot be set. -/
def readonly : List Text → Sh Nat :=
  mark "readonly" (·.isReadOnly) fun v => { v with isReadOnly := true }

/-- Make variables local to a function. -/
def local_ (arguments : List Text) : Sh Nat := do
  if (← get).calls = 0 then fail "not in a function".toList
  for word in arguments do
    let (name, value?) := splitAssignment word
    if name ≠ ['-'] then
      requireName name
      keep name
      match value? with
      | some value => assign name value
      | none => pure ()
  return 0

/-- Take away variables or functions. -/
def unset_ (arguments : List Text) : Sh Nat := do
  let (found, names) ← options "vf" arguments
  for name in names do
    if found.getLast?.any (·.1 == 'f') then
      modify fun s => { s with functions := s.functions.filter (·.1 != name) }
    else
      requireName name
      unset name
  return 0

/-- Set options and arguments. -/
def set_ (arguments : List Text) : Sh Nat := do
  if arguments.isEmpty then listVariables [] (fun _ => true) false
  else
    let (isMarked, rest) ← setOptions arguments
    if isMarked || !rest.isEmpty then
      modify ({ · with arguments := rest, optionIndex := 1, optionOffset? := none })
    return 0

/-- Drop the first arguments. -/
def shift (arguments : List Text) : Sh Nat := do
  let n ← match arguments with | [] => pure 1 | word :: _ => number word
  if (← get).arguments.length < n then fail "can't shift that many".toList
  modify fun s =>
    { s with arguments := s.arguments.drop n, optionIndex := 1, optionOffset? := none }
  return 0

/-- Set a variable that may have any name that is one. -/
def assignNamed (name value : Text) : Sh Unit := do
  requireName name
  assign name value

/-- Take an option from arguments, and say whether there was none. -/
def nextOption (letters variableName : Text) (words : List Text) : Sh Bool := do
  let s ← get
  let before? := if s.optionIndex ≤ 1 then none else words[s.optionIndex - 2]?
  let left := match before?, s.optionOffset? with | some w, some k => w.drop k | _, _ => []
  let finish (index : Nat) (offset? : Option Nat) (c : Char) (isEnd : Bool) : Sh Bool := do
    assign "OPTIND".toList (Text.decimal index)
    assignNamed variableName [c]
    modify ({ · with optionIndex := index, optionOffset? := offset? })
    return isEnd
  let isQuiet := letters.head? == some ':'
  let take (index : Nat) (word letters' : Text) : Sh Bool := do
    match letters' with
    | [] => finish index none '?' true
    | c :: after =>
      let offset? := if after.isEmpty then none else some (word.length - after.length)
      match optionKind? (if isQuiet then letters.drop 1 else letters) c with
      | none =>
        if isQuiet then assign "OPTARG".toList [c]
        else
          let _ ← call (.write 2 ("Illegal option -".toList ++ [c, '\n']))
          unset "OPTARG".toList
        finish index offset? '?' false
      | some false =>
        assign "OPTARG".toList []
        finish index offset? c false
      | some true =>
        if !after.isEmpty then
          assign "OPTARG".toList after
          finish index none c false
        else
          match words[index - 1]? with
          | some value =>
            assign "OPTARG".toList value
            finish (index + 1) none c false
          | none =>
            if isQuiet then
              assign "OPTARG".toList [c]
              finish index none ':' false
            else
              let _ ← call (.write 2 ("No arg for -".toList ++ c :: " option\n".toList))
              unset "OPTARG".toList
              finish index none '?' false
  if !left.isEmpty then take s.optionIndex (before?.getD []) left
  else
    match words[s.optionIndex - 1]? with
    | some ('-' :: c :: rest) =>
      if c == '-' && rest.isEmpty then finish (s.optionIndex + 1) none '?' true
      else take (s.optionIndex + 1) ('-' :: c :: rest) (c :: rest)
    | _ => finish s.optionIndex none '?' true

/-- Take an option from the arguments of the script or from others. -/
def getopts (arguments : List Text) : Sh Nat := do
  match arguments with
  | letters :: name :: words =>
    let s ← get
    let words := if words.isEmpty then s.arguments else words
    if words.length + 1 < s.optionIndex then
      modify ({ · with optionIndex := 1, optionOffset? := none })
    return if ← nextOption letters name words then 1 else 0
  | _ => fail "Usage: getopts optstring var [arg...]".toList

/-- How many characters are taken at once from input that they can be given back to. -/
def readAhead (fd : Nat) : Sh Nat := do
  match ← call (.seek fd .current 0) with
  | .ok _ => return 128
  | .error _ => return 1

/-- The next character of the standard input and those read after it. -/
def nextCharacter (size : Nat) : Nat → Text → Sh (Option (Char × Text))
  | 0, _ => return none
  | _, c :: ahead => return some (c, ahead)
  | n + 1, [] => do
    match (← call (.read 0 size) : Except IoError Text) with
    | .ok (c :: ahead) => nextCharacter size n (c :: ahead)
    | _ => return none

/-- Read up to the end of a line.  The results are what has been read, whether the line was ended,
and the characters that were read after it.  A backslash takes the meaning from the character behind
it. -/
def readCharacters (isRaw : Bool) (size : Nat) :
    Nat → List Segment → Text → Text → Sh (List Segment × Bool × Text)
  | 0, done, current, ahead => return ((.split [current.reverse] :: done).reverse, false, ahead)
  | n + 1, done, current, ahead => do
    let whole : List Segment := (.split [current.reverse] :: done).reverse
    match ← nextCharacter size 2 ahead with
    | none => return (whole, false, [])
    | some (c, ahead) =>
      if c == '\n' then return (whole, true, ahead)
      else if c == '\x00' then readCharacters isRaw size n done current ahead
      else if c == '\\' && !isRaw then
        match ← escaped n ahead with
        | none => return (whole, false, [])
        | some ('\n', ahead) => readCharacters isRaw size n done current ahead
        | some (c, ahead) =>
          readCharacters isRaw size n (.fixed [⟨c, true⟩] :: .split [current.reverse] :: done) []
            ahead
      else readCharacters isRaw size n done (c :: current) ahead
where
  /-- The character behind a backslash. -/
  escaped : Nat → Text → Sh (Option (Char × Text))
    | 0, _ => return none
    | n + 1, ahead => do
      match ← nextCharacter size 2 ahead with
      | some ('\x00', ahead) => escaped n ahead
      | found => return found

/-- Read a line and split it into variables. -/
def read (arguments : List Text) : Sh Nat := do
  let (found, names) ← options "p:r" arguments
  if names.isEmpty then fail "arg count".toList
  let (segments, isWhole, ahead) ←
    readCharacters (found.any (·.1 == 'r')) (← readAhead 0) (Nat.pow 10 7) [] [] []
  if !ahead.isEmpty then
    let _ ← call (.seek 0 .current (-ahead.length))
  let fields := split (← separators) (some names.length) (segments.map Segment.region)
  for (name, i) in names.zipIdx do
    assignNamed name (((fields[i]?).map unmarked).getD [])
  return if isWhole then 0 else 1

/-- An alias as it could be defined. -/
def aliasLine (name value : Text) : Text := name ++ '=' :: singleQuoted value

/-- Define and list aliases. -/
def alias_ (arguments : List Text) : Sh Nat := do
  if arguments.isEmpty then
    for (name, value) in (← get).aliases.mergeSort fun a b => Text.order a.1 b.1 != .gt do
      printLine (aliasLine name value)
    return 0
  else
    let mut status := 0
    for word in arguments do
      match splitAssignment word with
      | (name, some value) =>
        if name.isEmpty then
          status ← unknown word
        else
          modify fun s => { s with aliases := (name, value) :: s.aliases.filter (·.1 != name) }
      | (name, none) =>
        match (← get).aliases.find? (·.1 == name) with
        | some (_, value) => printLine (aliasLine name value)
        | none => status ← unknown word
    return status
where
  unknown (word : Text) : Sh Nat := do
    let _ ← call (.write 2 ("alias: ".toList ++ word ++ " not found\n".toList))
    return 1

/-- Take away aliases. -/
def unalias (arguments : List Text) : Sh Nat := do
  let (found, names) ← options "a" arguments
  if !found.isEmpty then
    modify ({ · with aliases := [] })
    return 0
  else
    let mut status := 0
    for name in names do
      if (← get).aliases.any (·.1 == name) then
        modify fun s => { s with aliases := s.aliases.filter (·.1 != name) }
      else
        let _ ← call (.write 2 ("unalias: ".toList ++ name ++ " not found\n".toList))
        status := 1
    return status

end RuleSets.Shell.Sh
