import RuleSets.Shell.Builtin.Variable
import RuleSets.Shell.Task

/-!
# Commands on processes

The commands for directories, programs, children and signals.
-/

namespace RuleSets.Shell.Sh

open Machine (Signal)

/-! ### Directories -/

/-- A path without dots in it, where the parts in front come last one first. -/
def normalized (before : List Text) (parts : List Text) : List Text :=
  (parts.foldl (fun before part =>
    if part.isEmpty || part == ['.'] then before
    else if part == ['.', '.'] then before.drop 1
    else part :: before) before).reverse

/-- A path from a directory on, spelled without dots. -/
def absolutePath (directory path : Text) : Text :=
  let parts := Text.splitBy (· == '/') path
  if path.head? == some '/' then
    let lead := if (path.takeWhile (· == '/')).length == 2 then ['/', '/'] else ['/']
    lead ++ Text.joinWith ['/'] (normalized [] parts)
  else
    let start := (Text.splitBy (· == '/') directory).filter (!·.isEmpty)
    '/' :: Text.joinWith ['/'] (normalized start.reverse parts)

/-- Set a variable that programs get. -/
def assignExported (name value : Text) : Sh Unit := do
  assign name value
  alter name fun v => { v with isExported := true }

/-- Enter a directory, and say whether that has worked. -/
def enter (isPhysical : Bool) (path : Text) : Sh Bool := do
  let s ← get
  let goal := if isPhysical then path else absolutePath s.directory path
  match ← call (.enter goal) with
  | .error _ => return false
  | .ok _ =>
    let directory ← if isPhysical then call .directory else pure goal
    modify ({ · with directory := directory })
    assignExported "OLDPWD".toList s.directory
    assignExported "PWD".toList directory
    return true

/-- The directories in which a path is looked for that is to be entered. -/
def entrances (path : Text) : Sh (List Text) := do
  let isPlain := match Text.splitBy (· == '/') path with
    | [] => true
    | first :: _ => path.head? == some '/' || first == ['.'] || first == ['.', '.']
  match ← value? "CDPATH".toList with
  | some search => return if isPlain then [] else candidates search path
  | none => return []

/-- Change the directory. -/
def cd (arguments : List Text) : Sh Nat := do
  let (found, rest) ← options "LP" arguments
  let isPhysical := found.getLast?.any (·.1 == 'P')
  let (goal, prints) ←
    match rest with
    | [] => do pure ((← value? "HOME".toList).getD [], false)
    | ['-'] :: _ => do pure ((← value? "OLDPWD".toList).getD [], true)
    | goal :: _ => pure (goal, false)
  let goal := if goal.isEmpty then ['.'] else goal
  let places ← entrances goal
  let isDirectory (path : Text) : Sh Bool := do
    match ← call (.facts path) with
    | .ok f => return f.kind == .directory
    | .error _ => return false
  let place? ← firstPlace isDirectory places
  let isEntered ← enter isPhysical (place?.getD goal)
  if !isEntered then fail ("can't cd to ".toList ++ goal)
  if prints || place?.any (· != goal) then printLine (← get).directory
  return 0
where
  firstPlace (p : Text → Sh Bool) : List Text → Sh (Option Text)
    | [] => return none
    | path :: rest => do if ← p path then return some path else firstPlace p rest

/-- Print the directory. -/
def pwd (arguments : List Text) : Sh Nat := do
  let (found, _) ← options "LP" arguments
  if found.getLast?.any (·.1 == 'P') then printLine (← call .directory)
  else printLine (← get).directory
  return 0

/-! ### Programs -/

/-- End the shell by becoming a program. -/
def becomeProgram (searchPath : Text) (arguments : List Text) : Sh Unit := do
  let name := arguments.headD []
  let bindings ← environment
  let attempt (path : Text) : Sh IoError := do
    match (← call (.execute path arguments bindings) : IoError) with
    | .badInterpreter =>
      let shell := "/bin/sh".toList
      call (.execute shell (shell :: path :: arguments.drop 1) bindings)
    | e => return e
  let rec attempts (e : IoError) : List Text → Sh IoError
    | [] => return e
    | path :: rest => do
      match ← attempt path with
      | .notFound | .notADirectory => attempts e rest
      | e => attempts e rest
  let e ← if name.contains '/' then attempt name else attempts .notFound (candidates searchPath name)
  let isMissing := [IoError.notFound, .notADirectory, .nameTooLong].contains e
  complain (name ++ ": ".toList ++ executionReason e)
  setStatus (if isMissing then 127 else 126)
  throw .finish

/-- Say what a name calls, and whether it calls anything. -/
def describe (searchPath name : Text) (isVerbose : Bool) : Sh Nat := do
  let say (verbose brief : Text) : Sh Nat := do
    printLine (if isVerbose then name ++ ' ' :: verbose else brief)
    return 0
  if reservedWords.contains name then say "is a shell keyword".toList name
  else
    match (← get).aliases.find? (·.1 == name) with
    | some (_, value) =>
      say ("is an alias for ".toList ++ value) ("alias ".toList ++ aliasLine name value)
    | none =>
      let isKnown := (← get).found.any (·.1 == name)
      match ← find true searchPath name with
      | .builtin =>
        let kind := if isSpecialName name then "is a special shell builtin" else "is a shell builtin"
        say kind.toList name
      | .function _ => say "is a shell function".toList name
      | .program path =>
        match ← call (.facts path) with
        | .ok _ =>
          say ((if isKnown then "is a tracked alias for " else "is ").toList ++ path) path
        | .error _ => unknown
      | .missing _ => unknown
where
  unknown : Sh Nat := do
    if isVerbose then printLine (name ++ ": not found".toList)
    return 127

/-- Say what names call. -/
def type (arguments : List Text) : Sh Nat := do
  let mut status := 0
  for name in arguments do
    status := status ||| (← describe (← searchPath) name true)
  return status

/-- Say what a name calls, where it has not been taken for that. -/
def command (arguments : List Text) : Sh Nat := do
  let (found, rest) ← options "pvV" arguments
  let has (c : Char) : Bool := found.any (·.1 == c)
  match rest.head? with
  | some name =>
    if has 'v' || has 'V' then
      let search ← if has 'p' then pure standardPath else searchPath
      describe search name (has 'V')
    else return 0
  | none => return 0

/-- List, forget or look for programs. -/
def hash (arguments : List Text) : Sh Nat := do
  let (found, names) ← options "r" arguments
  if !found.isEmpty then
    modify ({ · with found := [] })
    return 0
  else if names.isEmpty then
    for (_, path) in (← get).found do printLine path
    return 0
  else
    let mut status := 0
    for name in names do
      match ← find true (← searchPath) name with
      | .program path =>
        if !name.contains '/' then
          modify fun s => { s with found := s.found.filter (·.1 != name) ++ [(name, path)] }
      | .missing why =>
        complain (name ++ ": ".toList ++ why)
        status := 1
      | _ => pure ()
    return status

/-! ### Children -/

/-- A task as it is listed. -/
def taskLine (mark : Char) (withPids : Bool) (t : Task) : Text :=
  let lead := '[' :: Text.decimal t.number ++ [']', ' ', mark, ' ']
  let state : Text :=
    if t.isDone then (t.processes.getLast?.bind (·.2)).elim [] endingText else "Running".toList
  let fill (s : Text) : Text := s ++ List.replicate (33 - s.length) ' '
  let pids := t.processes.map fun p => Text.decimal p.1
  if withPids then
    let first := fill (lead ++ pids.headD [] ++ ' ' :: state)
    let others := pids.drop 1 |>.map fun pid => fill (List.replicate lead.length ' ' ++ pid ++ [' '])
    Text.joinWith " |\n".toList (first :: others)
  else fill (lead ++ state) ++ (pids.drop 1).flatMap fun _ => " | ".toList

/-- List tasks; those that are done are forgotten. -/
def jobs (arguments : List Text) : Sh Nat := do
  let (found, words) ← options "lp" arguments
  hearAll patience
  let all := (← get).tasks
  let tasks ← if words.isEmpty then pure all else words.mapM taskOf
  for t in tasks do
    if found.getLast?.any (·.1 == 'p') then
      printLine ((t.processes.map fun p => Text.decimal p.1).headD [])
    else
      let left := (← get).tasks
      let isCurrent (k : Nat) : Bool := ((left.drop k).head?).any (·.number == t.number)
      let mark := if isCurrent 0 then '+' else if isCurrent 1 then '-' else ' '
      printLine (taskLine mark (found.getLast?.any (·.1 == 'l')) t)
      if t.isDone then dropTask t.number
  return 0

/-- Fail to move a task between foreground and background, since the shell does not control jobs. -/
def move (arguments : List Text) : Sh Nat := do
  let t ← taskOf (arguments.headD [])
  fail ("job ".toList ++ '%' :: Text.decimal t.number ++ " not created under job control".toList)

/-- Wait for children. -/
def wait (arguments : List Text) : Sh Nat := do
  let (_, words) ← options "" arguments
  let note (isIt : Task → Bool) : Sh Unit :=
    modify fun s =>
      { s with tasks := s.tasks.map fun t => if isIt t then { t with isAsked := true } else t }
  if words.isEmpty then
    let status ← awaitAsked none (fun s => s.tasks.all (·.isDone)) (fun _ => 0) patience
    note (·.isDone)
    return status
  else
    let mut status := 127
    for word in words do
      let number? ←
        if word.head? == some '%' then
          let t ← taskOf word
          pure (some t.number)
        else
          let pid ← number word
          pure (((← get).tasks.find? fun t =>
            (t.processes.getLast?).any (·.1 == pid)).map (·.number))
      match number? with
      | none => pure ()
      | some number =>
        let mine (s : Session) : Option Task := s.tasks.find? (·.number == number)
        status ← awaitAsked (some number) (fun s => (mine s).all (·.isDone))
          (fun s => (mine s).elim 0 (·.status)) patience
        if ((mine (← get)).any (·.isDone)) then note (·.number == number)
    return status

/-! ### Signals -/

/-- The signal of a name without a prefix, or of a number. -/
def signal? (least : Signal) (word : Text) : Option Signal :=
  if !word.isEmpty && word.all Char.isDigit then
    let n := Text.valueOf 10 word
    if least ≤ n && n ≤ Machine.Signal.last then some n else none
  else
    (Machine.Signal.names.findIdx? fun name => Text.eqIgnoringAsciiCase name word).filter (least ≤ ·)

/-- Set, reset and list what is done when signals come. -/
def trap (arguments : List Text) : Sh Nat := do
  let (_, words) ← options "" arguments
  match words with
  | [] =>
    for (n, action) in (← get).traps.mergeSort fun a b => a.1 ≤ b.1 do
      printLine ("trap -- ".toList ++ singleQuoted action ++ ' ' :: Machine.Signal.name n)
    return 0
  | first :: rest =>
    let isNumber := !first.isEmpty && first.all Char.isDigit && (signal? 0 first).isSome
    let (action?, words) : Option Text × List Text :=
      if rest.isEmpty || isNumber then (none, words)
      else (if first == ['-'] then none else some first, rest)
    for word in words do
      match signal? 0 word with
      | none =>
        let _ ← call (.write 2 ("trap: ".toList ++ word ++ ": bad trap\n".toList))
        return 1
      | some n =>
        modify fun s =>
          let others := s.traps.filter (·.1 != n)
          { s with traps := match action? with | some a => (n, a) :: others | none => others }
        if n ≠ 0 then
          let response : Machine.Signal.Response :=
            match action? with
            | none => .byDefault
            | some [] => .ignored
            | some _ => .noticed
          call (.respond n response)
    return 0

/-- The usage of `kill`. -/
def killUsage : Text :=
  ("Usage: kill [-s sigspec | -signum | -sigspec] [pid | job]... or\n" ++
    "kill -l [exitstatus]").toList

/-- Send signals, or tell their names. -/
def kill (arguments : List Text) : Sh Nat := do
  if arguments.isEmpty then fail killUsage
  let short? : Option Signal :=
    match arguments with
    | ('-' :: name) :: _ => signal? 0 name
    | _ => none
  let (signal?, lists, words) ←
    match short? with
    | some n => pure (some n, false, arguments.drop 1)
    | none => do
      let (found, rest) ← options "ls:" arguments
      let names := found.filter (·.1 == 's')
      let signals ← names.mapM fun (_, name) => do
        match signal? 0 name with
        | some n => return n
        | none => fail ("invalid signal number or name: ".toList ++ name)
      pure (signals.getLast?, found.any (·.1 == 'l'), rest)
  if lists then
    if signal?.isSome then fail killUsage
    match words with
    | [] =>
      printLine ['0']
      for n in (List.range Machine.Signal.last).map (· + 1) do printLine (Machine.Signal.name n)
      return 0
    | word :: _ =>
      let n ← number word
      let n := if 128 < n then n - 128 else n
      if 0 < n && n ≤ Machine.Signal.last then
        printLine (Machine.Signal.name n)
        return 0
      else fail ("invalid signal number or exit status: ".toList ++ word)
  else
    if words.isEmpty then fail killUsage
    let mut status := 0
    for word in words do
      let pid? : Option Nat ←
        if word.head? == some '%' then
          let _ ← taskOf word
          pure none
        else if word.head? == some '-' then
          let _ ← number (word.drop 1)
          pure none
        else do pure (some (← number word))
      let isSent ←
        match pid? with
        | none => pure false
        | some pid => do pure ((← call (.signal pid (signal?.getD Machine.Signal.terminate)) :
            Except IoError Unit)).isOk
      if !isSent then
        complain ((reason IoError.noProcess) ++ ['\n'])
        status := 1
    return status

/-! ### Limits -/

/-- The letters of permissions. -/
def permissionText (mode : Nat) : Text :=
  (if mode / 4 % 2 = 1 then ['r'] else []) ++ (if mode / 2 % 2 = 1 then ['w'] else []) ++
    (if mode % 2 = 1 then ['x'] else [])

/-- Print or set the permissions that new files do not get. -/
def umask (arguments : List Text) : Sh Nat := do
  let (found, words) ← options "S" arguments
  match words with
  | [] =>
    let mask := (← get).mask
    if found.isEmpty then
      let digits := Text.numeral 8 mask
      printLine (List.replicate (4 - digits.length) '0' ++ digits)
    else
      let mode := 511 - mask
      printLine ("u=".toList ++ permissionText (mode / 64) ++ ",g=".toList ++
        permissionText (mode / 8 % 8) ++ ",o=".toList ++ permissionText (mode % 8))
    return 0
  | word :: _ =>
    if word.head?.any Char.isDigit then
      if !word.all (Text.isDigitOf 8) then failNumber word
      modify ({ · with mask := Text.valueOf 8 word % 512 })
      return 0
    else
      match symbolic? word (511 - (← get).mask) with
      | some mode =>
        modify ({ · with mask := 511 - mode })
        return 0
      | none => fail ("Illegal mode: ".toList ++ word)
where
  /-- The permissions after symbolic changes. -/
  symbolic? (word : Text) (mode : Nat) : Option Nat :=
    (Text.splitBy (· == ',') word).foldlM (fun mode clause => do
      let who := clause.takeWhile "ugoa".toList.contains
      let who := if who.isEmpty then ['a'] else who
      match clause.dropWhile "ugoa".toList.contains with
      | operator :: letters =>
        if !letters.all "rwx".toList.contains then none
        else
          let bits := (if letters.contains 'r' then 4 else 0) + (if letters.contains 'w' then 2 else 0)
            + (if letters.contains 'x' then 1 else 0)
          let has (c : Char) : Bool := who.contains 'a' || who.contains c
          let changed (old : Nat) : Option Nat :=
            match operator with
            | '=' => some bits
            | '+' => some (old ||| bits)
            | '-' => some (old - (old &&& bits))
            | _ => none
          let part (c : Char) (old : Nat) : Option Nat := if has c then changed old else some old
          let u ← part 'u' (mode / 64)
          let g ← part 'g' (mode / 8 % 8)
          let o ← part 'o' (mode % 8)
          return u * 64 + g * 8 + o
      | [] => none) mode

/-- Tell limits, of which there are none. -/
def ulimit (arguments : List Text) : Sh Nat := do
  let (_, words) ← options "HSatfdsmcnpvlrw" arguments
  if words.isEmpty then printLine "unlimited".toList
  return 0

/-- Tell how much time has been used up, which is none. -/
def times (_ : List Text) : Sh Nat := do
  printLine "0m0.000000s 0m0.000000s".toList
  printLine "0m0.000000s 0m0.000000s".toList
  return 0

end RuleSets.Shell.Sh
