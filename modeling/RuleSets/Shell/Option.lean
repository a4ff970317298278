import RuleSets.Shell.Session

/-!
# Options

The options in the arguments of a command, and those of the shell itself.
-/

namespace RuleSets.Shell.Sh

/-- Whether a letter is among the known ones, and whether it takes an argument. -/
def optionKind? (letters : Text) (c : Char) : Option Bool :=
  match letters with
  | [] => none
  | d :: ':' :: rest => if c == d then some true else optionKind? rest c
  | d :: rest => if c == d then some false else optionKind? rest c

/-- The options in the letters of a word, with the arguments that they take from the word or from
those behind it, and the words that are left. -/
def wordOptions (known : Text) : Text → List Text → Sh (List (Char × Text) × List Text)
  | [], rest => return ([], rest)
  | c :: letters, rest => do
    match optionKind? known c, letters, rest with
    | none, _, _ => fail ("Illegal option -".toList ++ [c])
    | some false, letters, rest => do
      let (more, rest) ← wordOptions known letters rest
      return ((c, []) :: more, rest)
    | some true, [], [] => fail ("No arg for -".toList ++ c :: " option".toList)
    | some true, [], value :: rest => return ([(c, value)], rest)
    | some true, letters, rest => return ([(c, letters)], rest)

/-- The options at the start of arguments, and the other arguments. -/
def options (known : String) (arguments : List Text) : Sh (List (Char × Text) × List Text) :=
  go (arguments.length + 1) arguments
where
  go : Nat → List Text → Sh (List (Char × Text) × List Text)
    | 0, words => return ([], words)
    | n + 1, words => do
      match words with
      | ('-' :: c :: letters) :: rest =>
        if c == '-' && letters.isEmpty then return ([], rest)
        else
          let (found, rest) ← wordOptions known.toList (c :: letters) rest
          let (more, rest) ← go n rest
          return (found ++ more, rest)
      | words => return ([], words)

/-- The names of the options of the shell and their letters, if they have any. -/
def optionNames : List (Text × Option Char) :=
  [("errexit", some 'e'), ("noglob", some 'f'), ("ignoreeof", some 'I'), ("interactive", some 'i'),
    ("monitor", some 'm'), ("noexec", some 'n'), ("stdin", some 's'), ("xtrace", some 'x'),
    ("verbose", some 'v'), ("vi", some 'V'), ("emacs", some 'E'), ("noclobber", some 'C'),
    ("allexport", some 'a'), ("notify", some 'b'), ("nounset", some 'u'), ("privileged", some 'p'),
    ("nolog", none), ("debug", none)].map fun e : String × Option Char => (e.1.toList, e.2)

/-- Set an option of the shell or take it back. -/
def setOption (c : Char) (isOn : Bool) : Sh Unit := do
  if optionNames.any (·.2 == some c) then
    modify fun s =>
      let others := s.options.filter (· != c)
      { s with options := if isOn then c :: others else others }
  else fail ("Illegal option -".toList ++ [c])

/-- Set an option that is called by its name, or list all options. -/
def setNamedOption (name? : Option Text) (isOn : Bool) : Sh Unit := do
  match name? with
  | some name =>
    match optionNames.find? (·.1 == name) with
    | some (_, some c) => setOption c isOn
    | some (_, none) => return
    | none => fail ("Illegal option -o ".toList ++ name)
  | none =>
    if isOn then printLine "Current option settings".toList
    for (name, c?) in optionNames do
      let isSet := c?.any (← get).options.contains
      if isOn then
        let gap := List.replicate (16 - name.length) ' '
        printLine (name ++ gap ++ (if isSet then "on" else "off").toList)
      else printLine ((if isSet then "set -o " else "set +o ").toList ++ name)

/-- Set the options of the shell that arguments name.  The result says whether a mark has ended the
options, and which arguments are left. -/
def setOptions : List Text → Sh (Bool × List Text)
  | [] => return (false, [])
  | word :: rest => do
    match word with
    | ['-'] =>
      modify fun s => { s with options := s.options.filter fun c => c != 'x' && c != 'v' }
      return (false, rest)
    | ['-', '-'] => return (true, rest)
    | '-' :: letters => do
      if letters.contains 'o' then
        setLetters letters true rest.head?
        setOptions (rest.drop 1)
      else
        setLetters letters true none
        setOptions rest
    | '+' :: letters => do
      if letters.contains 'o' then
        setLetters letters false rest.head?
        setOptions (rest.drop 1)
      else
        setLetters letters false none
        setOptions rest
    | word => return (false, word :: rest)
termination_by words => words.length
decreasing_by all_goals (simp only [List.length_cons, List.length_drop]; omega)
where
  setLetters (letters : Text) (isOn : Bool) (name? : Option Text) : Sh Unit := do
    for c in letters do
      if c == 'o' then setNamedOption name? isOn else setOption c isOn

end RuleSets.Shell.Sh
