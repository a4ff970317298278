import RuleSets.Shell.Builtin.Table
import RuleSets.Shell.Reader

/-!
# Carrying out commands

What a shell does for a command.  Commands that stand in parentheses, between pipes or in a word are
carried out by children.  Fuel bounds the depth to which commands are nested together with the
number of turns and lines that follow each other.
-/

namespace RuleSets.Shell.Sh

/-- How a command is carried out. -/
structure Mode where
  /-- Whether the shell ends with the command, so that it can become a program. -/
  exits : Bool
  /-- Whether something depends on the status, so that a failure does not end the shell. -/
  isTested : Bool

namespace Mode

/-- A command after which others follow. -/
def onward (m : Mode) : Mode := { m with exits := false }

/-- A command that decides about others. -/
def test : Mode := ⟨false, true⟩

/-- A command of a child. -/
def child (m : Mode) : Mode := { m with exits := true }

end Mode

/-- How a loop goes on. -/
inductive Turn where
  | on
  | next
  | out

/-- Do something of a loop, and say how the loop goes on. -/
def inLoop (act : Sh Unit) : Sh Turn := do
  try
    act
    return .on
  catch stop =>
    match stop with
    | .breaking k => if k ≤ 1 then return .out else throw (.breaking (k - 1))
    | .continuing k => if k ≤ 1 then return .next else throw (.continuing (k - 1))
    | stop => throw stop

/-- Do something as a loop. -/
def asLoop (act : Sh Unit) : Sh Unit := do
  modify fun s => { s with loops := s.loops + 1 }
  finally_ act (modify fun s => { s with loops := s.loops - 1 })

/-- Begin a command that stands on a line. -/
def atLine (line : Nat) : Sh Unit := modify ({ · with line := line })

/-- What is being called, as far as it is known. -/
structure Callee where
  /-- The name and the arguments so far. -/
  words : List Text
  /-- The words that have not been expanded. -/
  rest : List Word
  /-- The function or the command of the shell that is called. -/
  own? : Option Found
  withFunctions : Bool
  searchPath? : Option Text
  /-- Whether the call is one of the shell itself, and then whether of the special ones. -/
  isSpecial? : Option Bool

/-- Expand words until there is an argument. -/
def firstFields (run : Command → Sh Text) : List Word → Sh (List Text × List Word)
  | [] => return ([], [])
  | w :: rest => do
    match ← expandFields run w with
    | [] => firstFields run rest
    | words => return (words, rest)

/-- Pass the word `command` and its options, if they only stand before another command. -/
def passCommand (run : Command → Sh Text) : Nat → Callee → Sh (Option Callee)
  | 0, _ => return none
  | n + 1, c => do
    let (words, rest) ←
      match c.words.drop 1 with
      | [] => firstFields run c.rest
      | words => pure (words, c.rest)
    let c := { c with words := words, rest := rest }
    match words with
    | [] => return none
    | ['-', '-'] :: more =>
      let (words, rest) ← if more.isEmpty then firstFields run rest else pure (more, rest)
      return if words.isEmpty then none else some { c with words := words, rest := rest }
    | ('-' :: l :: letters) :: _ =>
      if (l :: letters).all (· == 'p') then
        passCommand run n { c with searchPath? := some standardPath }
      else return none
    | _ => return some c

/-- Find out what is called. -/
def resolve (run : Command → Sh Text) : Nat → Callee → Sh Callee
  | 0, c => return c
  | n + 1, c => do
    let name := c.words.headD []
    let own? ← findOwn? c.withFunctions name
    let c := { c with own? := own? }
    match own? with
    | some .builtin =>
      let c := { c with isSpecial? := some (c.isSpecial?.getD (isSpecialName name)) }
      if name == "command".toList then
        match ← passCommand run (c.words.length + c.rest.length + 2) c with
        | some c' => resolve run n { c' with withFunctions := false }
        | none => return c
      else return c
    | _ => return c

/-- Expand the words behind the first ones. -/
def arguments (run : Command → Sh Text) (c : Callee) : Sh (List Text) := do
  let assigns := c.own?.isSome && c.words.head?.any assigningNames.contains
  let more ← c.rest.mapM fun w => do
    match w.assignment? with
    | some (name, value) =>
      if assigns then return [name ++ '=' :: (← expandText run .value value)]
      else expandFields run w
    | none => expandFields run w
  return c.words ++ more.flatten

/-- Print a command before it is carried out, if that is asked for. -/
def trace (run : Command → Sh Text) (assigned : List (Text × Text)) (words : List Text) :
    Sh Unit := do
  if ← hasOption 'x' then
    let form := (← value? "PS4".toList).getD []
    let lead ←
      match Source.quotedWord form with
      | .ok w => do
        setOption 'x' false
        let t ← expandText run .value w
        setOption 'x' true
        pure t
      | .error _ => pure form
    let parts := assigned.map (fun (name, value) => name ++ '=' :: value) ++ words
    let kept := ((← get).redirections.headD []).find? (·.1 == 2)
    let d := (kept.bind (·.2)).getD 2
    let _ ← call (.write d (lead ++ Text.joinWith [' '] parts ++ ['\n']))

/-- Let a child do something.  It does not share what the shell knows of traps and children. -/
def startShell (conclude : Sh Unit → Sh Unit) (act : Sh Unit) : Sh Nat := do
  let s ← get
  forkAction do
    let (_, s) ← ((conclude do becomeChild; act).run).run s
    return s.status

/-- Let a child become a program. -/
def startProgram (searchPath : Text) (words : List Text) : Sh Nat := do
  let s ← get
  forkAction do
    let (_, s) ← ((becomeProgram searchPath words).run).run s
    return s.status

/-- Carry out a command of the shell in its name.  What is wrong with it ends only it, unless it is a
special one. -/
def asBuiltin (isSpecial : Bool) (name : Text) (act : Sh Nat) : Sh Nat := do
  try
    named (some name) do
      modify ({ · with hasLost := false })
      let status ← act
      if (← get).hasLost then
        complain (name ++ ": I/O error".toList)
        return status ||| 1
      else return status
  catch stop =>
    match stop, isSpecial with
    | .error, false => return (← get).status
    | stop, _ => throw stop

/-- The complaint about a script that cannot be read. -/
def failReading {α : Type} (m : Mistake) : Sh α := do
  atLine m.line
  fail ("Syntax error: ".toList ++ m.text)

/-- More functions may not be called inside each other. -/
def deepest : Nat := 1000

/-- What is in a file of commands. -/
def fileText (path : Text) : Sh (Except IoError Text) := do
  match ← call (.openFile path .input) with
  | .error e => return .error e
  | .ok fd =>
    let t ← pieces fd patience
    let _ ← call (.close fd)
    match t with
    | .ok ts => return .ok ts.flatten
    | .error e => return .error e
where
  pieces (fd : Nat) : Nat → Sh (Except IoError (List Text))
    | 0 => return .ok []
    | n + 1 => do
      match (← call (.read fd 65536) : Except IoError Text) with
      | .error e => return .error e
      | .ok [] => return .ok []
      | .ok t => return (← pieces fd n).map (t :: ·)

/-- All that can be read from a descriptor. -/
def drain (fd : Nat) : Nat → Sh Text
  | 0 => return []
  | n + 1 => do
    match (← call (.read fd 65536) : Except IoError Text) with
    | .ok (c :: t) => return c :: t ++ (← drain fd n)
    | _ => return []

mutual
/-- Carry out a command. -/
def evaluate : Nat → Mode → Command → Sh Unit
  | 0, _, _ => hang
  | n + 1, m, c => do
    runTraps n
    if !(← hasOption 'n') then evaluateOne n m c
    runTraps n
    let isChecked : Bool :=
      match c with
      | .simple _ _ _ _ | .subshell _ _ _ | .background _ _ _ | .pipeline _ _ => !m.isTested
      | _ => false
    if isChecked && (← get).status ≠ 0 && (← hasOption 'e') then throw .finish

/-- Carry out a command; traps are none of its business. -/
def evaluateOne : Nat → Mode → Command → Sh Unit
  | 0, _, _ => hang
  | n + 1, m, c => do
    match c with
    | .nothing => return
    | .simple line assignments words redirects =>
      atLine line
      setStatus (← evaluateSimple n m assignments words redirects)
    | .both a b =>
      evaluate n m.onward a
      evaluate n m b
    | .ifOk a b =>
      evaluate n .test a
      if (← get).status = 0 then evaluate n m b
    | .ifFailed a b =>
      evaluate n .test a
      if (← get).status ≠ 0 then evaluate n m b
    | .negated c =>
      let negate : Sh Unit := modify fun s => { s with status := if s.status = 0 then 1 else 0 }
      try evaluate n .test c
      catch stop =>
        match stop with
        | .breaking _ | .continuing _ | .returning => negate
        | _ => pure ()
        throw stop
      negate
    | .pipeline parts inBackground => setStatus (← evaluatePipeline n m parts inBackground)
    | .redirected line c redirects =>
      atLine line
      let run := substitute n
      let routes ← expandRedirects run redirects
      pushRedirections
      finally_ (do
        if ← redirected n routes then evaluate n m.onward c else setStatus 2) (popRedirections true)
    | .subshell line c redirects =>
      atLine line
      let run := substitute n
      let routes ← expandRedirects run redirects
      let body : Sh Unit := do
        redirect run false routes
        evaluate n m.child c
      if m.exits && !(← hasTraps) then
        body
        throw .finish
      else
        let task ← newTask
        addProcess task (← startShell (conclude n) body)
        setStatus (← finishTask task)
    | .background line c redirects =>
      atLine line
      let run := substitute n
      let routes ← expandRedirects run redirects
      let task ← newTask
      let pid ← startShell (conclude n) do
        leave true
        redirect run false routes
        evaluate n ⟨true, false⟩ c
      addProcess task pid
      modify ({ · with background? := some pid })
      setStatus 0
    | .branch condition yes no =>
      evaluate n .test condition
      if (← get).status = 0 then evaluateBody n m yes else evaluateBody n m no
    | .loop untilOk condition body =>
      asLoop (turns n m untilOk condition body 0)
    | .each line name words body =>
      atLine line
      let values ← expandWords (substitute n) words
      setStatus 0
      asLoop (eachTurn n m name body values)
    | .choice line word cases =>
      atLine line
      let run := substitute n
      let t ← expandText run .single word
      choose n m t cases
    | .define _ name body =>
      modify fun s => { s with functions := (name, body) :: s.functions.filter (·.1 != name) }
      setStatus 0

/-- Carry out a command that may be missing, in which case it succeeds. -/
def evaluateBody : Nat → Mode → Command → Sh Unit
  | 0, _, _ => hang
  | n + 1, m, c => do
    match c with
    | .nothing => setStatus 0
    | c => evaluate n m c

/-- Redirect for a command, and say whether that has worked. -/
def redirected : Nat → List Route → Sh Bool
  | 0, _ => hang
  | n + 1, routes => do
    try
      redirect (substitute n) true routes
      return true
    catch stop =>
      match stop with
      | .error => return false
      | stop => throw stop

/-- Carry out the turns of a loop with a condition, after which the status is that of the last
turn. -/
def turns : Nat → Mode → Bool → Command → Command → Nat → Sh Unit
  | 0, _, _, _, _, _ => hang
  | n + 1, m, untilOk, condition, body, status => do
    call (.pass 0)
    match ← inLoop (evaluate n .test condition) with
    | .out => setStatus status
    | .next => turns n m untilOk condition body status
    | .on =>
      if ((← get).status == 0) == untilOk then setStatus status
      else
        match ← inLoop (evaluate n m.onward body) with
        | .out => return
        | _ => turns n m untilOk condition body (← get).status

/-- Carry out the turns of a loop over values. -/
def eachTurn : Nat → Mode → Text → Command → List Text → Sh Unit
  | 0, _, _, _, _ => hang
  | _, _, _, _, [] => return
  | n + 1, m, name, body, value :: values => do
    call (.pass 0)
    assign name value
    match ← inLoop (evaluateBody n m.onward body) with
    | .out => return
    | _ => eachTurn n m name body values

/-- Carry out the first of some cases with a pattern that matches a text. -/
def choose : Nat → Mode → Text → List (List Word × Command) → Sh Unit
  | 0, _, _, _ => hang
  | _, _, _, [] => setStatus 0
  | n + 1, m, t, (patterns, c) :: cases => do
    if ← anyMatches n t patterns then evaluateBody n m c else choose n m t cases

/-- Whether a text matches one of some patterns. -/
def anyMatches : Nat → Text → List Word → Sh Bool
  | 0, _, _ => hang
  | _, _, [] => return false
  | n + 1, t, p :: patterns => do
    if patternMatches (← expandPattern (substitute n) p) t then return true
    else anyMatches n t patterns

/-- Carry out a simple command.  The result is its status. -/
def evaluateSimple : Nat → Mode → List (Text × Word) → List Word → List Redirect → Sh Nat
  | 0, _, _, _, _ => hang
  | n + 1, m, assignments, words, redirects => do
    modify ({ · with taken := 0 })
    let run := substitute n
    let (first, rest) ← firstFields run words
    let c : Callee := ⟨first, rest, none, true, none, none⟩
    let c ← if first.isEmpty then pure c else resolve run (words.length + first.length) c
    let words ← arguments run c
    let isExec := c.isSpecial?.isSome && words.head? == some "exec".toList
    let isLocal := !first.isEmpty && c.isSpecial? != some true
    let body : Sh Nat := do
      let routes ← expandRedirects run redirects
      pushRedirections
      finally_ (do
        if ← redirected n routes then
          let mut assigned := []
          for (name, w) in assignments do
            let value ← expandText run .value w
            if isLocal then keep name
            assign name value
            if isLocal || (isExec && 1 < words.length) then
              alter name fun v => { v with isExported := true }
            assigned := (name, value) :: assigned
          trace run assigned.reverse words
          invoke n m c words
        else
          if c.isSpecial? == some true then
            setStatus 2
            throw .error
          return 2) (popRedirections (!isExec))
    if isLocal then framed body else body

/-- Carry out what is called.  The result is its status. -/
def invoke : Nat → Mode → Callee → List Text → Sh Nat
  | 0, _, _, _ => hang
  | n + 1, m, c, words => do
    let isSpecial := c.isSpecial? == some true
    match words, c.own? with
    | [], _ => return (← get).taken
    | name :: arguments, some (.function body) => callFunction n m name body arguments
    | name :: arguments, some _ =>
      asBuiltin isSpecial name do
        if name == "eval".toList then
          let mode : Mode := ⟨false, m.isTested⟩
          if arguments.all (·.isEmpty) then setStatus 0
          evaluateText n mode (Text.joinWith [' '] arguments)
          return (← get).status
        else if name == ['.'] then evaluateFile n arguments
        else
          match builtin? name with
          | some act => act arguments
          | none => return 127
    | name :: _, none =>
      let searchPath ← match c.searchPath? with | some p => pure p | none => searchPath
      match ← findProgram searchPath name with
      | .program path =>
        if !name.contains '/' && !(← get).found.any (·.1 == name) then
          modify fun s => { s with found := s.found ++ [(name, path)] }
        if m.exits && !(← hasTraps) then
          becomeProgram searchPath words
          return 0
        else
          let task ← newTask
          addProcess task (← startProgram searchPath words)
          finishTask task
      | .missing why =>
        complain (name ++ ": ".toList ++ why)
        return 127
      | _ => return 127

/-- Call a function. -/
def callFunction : Nat → Mode → Text → Command → List Text → Sh Nat
  | 0, _, _, _, _ => hang
  | n + 1, m, _, body, arguments => do
    let s ← get
    if deepest ≤ s.calls then
      fail "Maximum function recursion depth (1000) reached".toList
    call (.pass 0)
    set { s with
      arguments := arguments, optionIndex := 1, optionOffset? := none, loops := 0
      calls := s.calls + 1 }
    finally_ (do
      try evaluate n m.onward body
      catch stop =>
        match stop with
        | .returning => pure ()
        | stop => throw stop
      return (← get).status) (modify fun after =>
        { after with
          arguments := s.arguments, optionIndex := s.optionIndex, loops := s.loops
          optionOffset? := s.optionOffset?, calls := s.calls })

/-- Carry out a pipeline.  The result is its status. -/
def evaluatePipeline : Nat → Mode → List Command → Bool → Sh Nat
  | 0, _, _, _ => hang
  | n + 1, m, parts, inBackground => do
    let task ← newTask
    let mode : Mode := ⟨true, m.isTested⟩
    let mut source? : Option Nat := none
    for (c, i) in parts.zipIdx do
      let isLast := i + 1 == parts.length
      let pipe? : Option (Nat × Nat) ←
        if isLast then pure none
        else do
          let ends : Nat × Nat ← call .pipe
          pure (some ends)
      let source := source?
      let pid ← startShell (conclude n) do
        if inBackground then leave (i == 0)
        match pipe? with
        | some (next, _) =>
          let _ ← call (.close next)
        | none => pure ()
        match source with
        | some fd =>
          if fd ≠ 0 then
            let _ ← call (.connect 0 fd)
            let _ ← call (.close fd)
        | none => pure ()
        match pipe? with
        | some (_, drain) =>
          if drain ≠ 1 then
            let _ ← call (.connect 1 drain)
            let _ ← call (.close drain)
        | none => pure ()
        evaluate n mode c
      addProcess task pid
      if inBackground then modify ({ · with background? := some pid })
      match source? with
      | some fd =>
        let _ ← call (.close fd)
      | none => pure ()
      match pipe? with
      | some (next, drain) =>
        let _ ← call (.close drain)
        source? := some next
      | none => source? := none
    if inBackground then return 0 else finishTask task

/-- Take leave of whoever waits: signals from a terminal are ignored, and there is no input. -/
def leave (closesInput : Bool) : Sh Unit := do
  call (.respond 2 .ignored)
  call (.respond 3 .ignored)
  if closesInput then
    let _ ← call (.close 0)
    let _ ← call (.openFile "/dev/null".toList .input)

/-- What a command prints. -/
def substitute : Nat → Command → Sh Text
  | 0, _ => hang
  | n + 1, c => do
    match c with
    | .nothing => return []
    | c =>
      let (source, goal) : Nat × Nat ← call .pipe
      let task ← newTask
      let pid ← startShell (conclude n) do
        let _ ← call (.close source)
        if goal ≠ 1 then
          let _ ← call (.connect 1 goal)
          let _ ← call (.close goal)
        evaluate n ⟨true, false⟩ c
      addProcess task pid
      let _ ← call (.close goal)
      let t ← drain source patience
      let _ ← call (.close source)
      let status ← finishTask task
      modify ({ · with taken := status })
      return t

/-- Carry out commands that stand in a text. -/
def evaluateText : Nat → Mode → Text → Sh Unit
  | 0, _, _ => hang
  | n + 1, m, t => evaluateLines n m (Source.start t)

/-- Carry out the lines of a script in turn. -/
def evaluateLines : Nat → Mode → Source → Sh Unit
  | 0, _, _ => hang
  | n + 1, m, source => do
    let s ← get
    let source := { source with aliases := s.aliases, documents := [], next := s.nextDocument }
    match source.readLine with
    | .error mistake => failReading mistake
    | .ok (c?, source) =>
      modify fun s =>
        { s with documents := source.documents ++ s.documents, nextDocument := source.next }
      match c? with
      | some c =>
        evaluate n { m with exits := m.exits && source.isDone } c
        evaluateLines n m source
      | none => if source.isDone then return else evaluateLines n m source

/-- Carry out the commands in a file. -/
def evaluateFile : Nat → List Text → Sh Nat
  | 0, _ => hang
  | n + 1, arguments => do
    let (_, words) ← options "" arguments
    match words with
    | [] => return 0
    | name :: _ =>
      let path ←
        if name.contains '/' then pure name
        else
          match ← firstFile .notFound (candidates (← searchPath) name) with
          | .ok path => pure path
          | .error _ => fail (name ++ ": not found".toList)
      match ← fileText path with
      | .error e =>
        let why : Text :=
          match e with
          | .notFound | .notADirectory => "No such file".toList
          | e => reason e
        fail ("cannot open ".toList ++ path ++ ": ".toList ++ why)
      | .ok t =>
        setStatus 0
        named (some path) do
          try evaluateText n ⟨false, false⟩ t
          catch stop =>
            match stop with
            | .returning => pure ()
            | stop => throw stop
        return (← get).status

/-- Do what is to be done for the signals that have come. -/
def runTraps : Nat → Sh Unit
  | 0 => hang
  | n + 1 => do
    if (← get).traps.any fun (k, action) => k ≠ 0 && !action.isEmpty then collect
    let s ← get
    if s.pending.isEmpty then return
    modify ({ · with pending := [] })
    let signals := (List.range (Machine.Signal.last + 1)).filter s.pending.contains
    for k in signals do
      match (← get).traps.find? (·.1 == k) with
      | some (_, action) =>
        modify ({ · with exiting? := some (s.exiting?.getD s.status) })
        evaluateText n ⟨false, false⟩ action
        setStatus s.status
      | none => pure ()
    modify ({ · with exiting? := s.exiting? })

/-- Do something, end the shell whatever comes of it, and do what is to be done at the end. -/
def conclude : Nat → Sh Unit → Sh Unit
  | 0, _ => hang
  | n + 1, act => do
    try act
    catch stop =>
      match stop with
      | .exit => modify fun s => { s with status := s.exiting?.getD s.status }
      | _ => pure ()
    let s ← get
    match s.traps.find? (·.1 == 0) with
    | none => return
    | some (_, action) =>
      set { s with traps := s.traps.filter (·.1 != 0), exiting? := some s.status }
      try
        evaluateText n ⟨false, false⟩ action
        setStatus s.status
      catch stop =>
        match stop with
        | .exit => modify fun s => { s with status := s.exiting?.getD s.status }
        | .returning => setStatus s.status
        | _ => pure ()
end

end RuleSets.Shell.Sh
