import RuleSets.Shell.Evaluate

/-!
# The shell as a program

How a shell begins: it takes up its arguments and variables, reads a script from an argument, a file
or its input, and carries it out.
-/

namespace RuleSets.Shell

open Machine (Action Environment Program)

/-- Where a script comes from. -/
inductive Script where
  | text (t : Text)
  | file (path : Text)
  | input

/-- What a shell is told by its arguments. -/
structure Order where
  name : Text
  options : List Char
  script : Script
  arguments : List Text

namespace Sh

/-- How deep commands may be nested, together with the lines and turns before them. -/
def depth : Nat := Nat.pow 10 12

/-- Take up the options at the start of arguments.  The results are the arguments left and whether
the script is one of them. -/
def startOptions : List Text → Sh (Bool × List Text)
  | [] => return (false, [])
  | word :: rest => do
    match word with
    | ['-'] | ['-', '-'] => return (false, rest)
    | c :: letters =>
      if c == '-' || c == '+' then
        for l in letters do
          if l == 'o' then setNamedOption rest.head? (c == '-')
          else if l ≠ 'c' && l ≠ 'l' then setOption l (c == '-')
        let (isText, rest) ← startOptions (if letters.contains 'o' then rest.drop 1 else rest)
        return (isText || letters.contains 'c', rest)
      else return (false, word :: rest)
    | [] => return (false, word :: rest)
termination_by words => words.length
decreasing_by
  simp only [List.length_cons]
  split
  · simp only [List.length_drop]
    omega
  · omega

/-- Take up the arguments of the shell, and say where the script comes from. -/
def takeArguments (words : List Text) : Sh Script := do
  let (isText, rest) ← startOptions words
  let give (arguments : List Text) : Sh Unit := modify ({ · with arguments := arguments })
  if isText then
    match rest with
    | [] => fail "-c requires an argument".toList
    | [t] => return .text t
    | t :: name :: arguments =>
      modify ({ · with name := name })
      give arguments
      return .text t
  else if ← hasOption 's' then
    give rest
    return .input
  else
    match rest with
    | [] =>
      setOption 's' true
      return .input
    | path :: arguments =>
      give arguments
      return .file path

/-- Take up the variables of the shell, and set those that every shell has. -/
def takeVariables (environment : Environment) : Sh Unit := do
  let (_, parent) : Nat × Nat ← call .identity
  let standard (name : String) (value : Text) : Sh Unit :=
    put name.toList (some ⟨some value, false, false⟩)
  standard "IFS" " \t\n".toList
  standard "OPTIND" ['1']
  standard "PATH" standardPath
  standard "PS1" "# ".toList
  standard "PS2" "> ".toList
  standard "PS4" "+ ".toList
  for (name, value) in environment do
    if isName name && name ≠ "IFS".toList then put name (some ⟨some value, true, false⟩)
  put "OPTIND".toList (some ⟨some ['1'], false, false⟩)
  put "PPID".toList (some ⟨some (Text.decimal parent), false, false⟩)
  let actual : Text ← call .directory
  let directory ←
    match ← value? "PWD".toList with
    | some path =>
      if path.head? == some '/' then
        match ← call (.facts path), ← call (.facts ['.']) with
        | .ok f, .ok g => pure (if f.identity == g.identity then path else actual)
        | _, _ => pure actual
      else pure actual
    | none => pure actual
  modify ({ · with directory := directory })
  put "PWD".toList (some ⟨some directory, true, false⟩)

/-- Do all that a shell does. -/
def main (words : List Text) (environment : Environment) : Sh Unit := do
  takeVariables environment
  match ← takeArguments words with
  | .text t => evaluateText depth ⟨!(← hasOption 's'), false⟩ t
  | .input => evaluateText depth ⟨false, false⟩ (← drain 0 patience)
  | .file path =>
    match ← fileText path with
    | .ok t =>
      modify ({ · with name := path })
      evaluateText depth ⟨false, false⟩ t
    | .error e =>
      match e with
      | .isADirectory => return
      | .notFound | .notADirectory =>
        fail ("cannot open ".toList ++ path ++ ": No such file".toList)
      | e => fail ("cannot open ".toList ++ path ++ ": ".toList ++ reason e)

end Sh

/-- The session in which a shell begins. -/
def Session.start (name : Text) (pid : Nat) : Session where
  name := name
  arguments := []
  bindings := []
  functions := []
  aliases := []
  documents := []
  nextDocument := 0
  options := []
  status := 0
  taken := 0
  pid := pid
  background? := none
  tasks := []
  traps := []
  pending := []
  frames := []
  line := 0
  command? := none
  loops := 0
  calls := 0
  directory := []
  found := []
  optionIndex := 1
  optionOffset? := none
  exiting? := none
  redirections := []
  mask := 18
  hasLost := false

/-- The program that a shell is. -/
def interpreter (arguments : List Text) (environment : Environment) : Program :=
  Action.toProgram do
    let (pid, _) : Nat × Nat ← Machine.ask .identity
    let session := Session.start (arguments.headD "sh".toList) pid
    let (_, s) ← ((Sh.conclude Sh.depth (Sh.main (arguments.drop 1) environment)).run).run session
    return s.status

end RuleSets.Shell
