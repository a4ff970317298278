import RuleSets.Machine.State

/-!
# Performing calls

What a call does to a machine and what it answers.  A call that has to wait leaves the machine as it
is; it is made again when something has happened.
-/

namespace RuleSets.Machine

/-- What comes of a call. -/
inductive Outcome (c : Call) where
  | answered (m : State) (a : c.Answer)
  /-- The process waits until something happens. -/
  | waits
  /-- The process has ended or stopped. -/
  | broken (m : State)
  /-- The process goes on as another program. -/
  | replaced (m : State) (program : Program)

/-- How much a pipe takes before who writes to it has to wait. -/
def pipeCapacity : Nat := 65536

namespace State

/-! ### Opening files -/

/-- The device at a location. -/
def deviceAt? : Location → Option Device
  | [['d', 'e', 'v'], name] =>
    match String.ofList name with
    | "null" => some .null
    | "zero" => some .zero
    | "full" => some .full
    | "tty" => some .terminal
    | _ => none
  | _ => none

/-- The descriptor that a location stands for. -/
def descriptorAt? : Location → Option Nat
  | [['d', 'e', 'v'], name] =>
    match String.ofList name with
    | "stdin" => some 0
    | "stdout" => some 1
    | "stderr" => some 2
    | _ => none
  | [['d', 'e', 'v'], ['f', 'd'], name] =>
    if !name.isEmpty && name.all Char.isDigit then some (Text.valueOf 10 name) else none
  | _ => none

/-- Make a file with nothing in it, or take away what is in it. -/
def clear (m : State) (p : Process) (word : Text) (loc : Location) : Except IoError State := do
  match m.nodeAt? loc with
  | some n => return m.setContents n.id []
  | none => return (m.withFiles (← m.fs.write p.cwd (path word) [])).noteChange loc

/-- Open a file at a location where there may be one. -/
def openAt (m : State) (p : Process) (word : Text) (how : Opening) (loc : Location)
    (present? : Option Entry) : Except IoError (State × Nat) := do
  match deviceAt? loc, descriptorAt? loc, present? with
  | some .terminal, _, _ => throw .noDevice
  | some d, _, _ => return m.addFile ⟨.device d, how, 0⟩
  | none, some fd, _ => do
    let (id, _) ← m.file? p fd
    return (m, id)
  | none, none, some .directory =>
    if how.writes then throw .isADirectory else return m.addFile ⟨.directory, how, 0⟩
  | none, none, some (.file _ _) =>
    if how.onlyNew then throw .alreadyExists
    let m ← if how.clears then m.clear p word loc else pure m
    let (m, id) := m.nodeAt loc
    return m.addFile ⟨.node id, how, 0⟩
  | none, none, none =>
    if !how.creates then throw .notFound
    let m ← m.clear p word loc
    let (m, id) := m.nodeAt loc
    return m.addFile ⟨.node id, how, 0⟩

/-- Open a file: the least free descriptor leads to it. -/
def openFile (m : State) (p : Process) (word : Text) (how : Opening) :
    Except IoError (State × Nat) := do
  let (loc, present?) ←
    if how.creates then m.fs.filePlace p.cwd (path word) else m.fs.place p.cwd (path word)
  let (m, id) ← m.openAt p word how loc present?
  let fd := p.freeDescriptor 0
  return (m.attach p.pid fd id, fd)

/-! ### Reading and writing -/

/-- How long a file may be. -/
def largestFile : Nat := Nat.pow 2 25

/-- Bytes with others put in at a position, and zeros before them where there was nothing. -/
def overwritten (old new : Bytes) (position : Nat) : Bytes :=
  let before := old.take position
  before ++ List.replicate (position - before.length) 0 ++ new ++ old.drop (position + new.length)

/-- Read from what a descriptor leads to; without a result the process waits. -/
def readFrom (m : State) (p : Process) (fd most : Nat) :
    Except IoError (Option (State × Text)) := do
  let (id, f) ← m.file? p fd
  if !f.how.reads then throw .badDescriptor
  match f.goal with
  | .directory => throw .isADirectory
  | .device .zero | .device .full => return some (m, List.replicate most '\x00')
  | .device _ | .sink _ => return some (m, [])
  | .node node =>
    let t := ((m.contents node).drop f.position).take most
    return some (m.setFile id { f with position := f.position + t.length }, Text.ofBytes t)
  | .pipe k =>
    match find? k m.pipes with
    | none => return some (m, [])
    | some pipe =>
      if pipe.size = 0 then
        return if m.isUsed f.goal (·.writes) then none else some (m, [])
      let t := pipe.buffer.take most
      let left : Pipe := ⟨pipe.buffer.drop most, pipe.size - most⟩
      return some ({ m with pipes := put k left m.pipes }.wake, t)

/-- Write to what a descriptor leads to; without a result the process waits. -/
def writeTo (m : State) (p : Process) (fd : Nat) (t : Text) : Except IoError (Option State) := do
  let (id, f) ← m.file? p fd
  if !f.how.writes then throw .badDescriptor
  match f.goal with
  | .directory => throw .badDescriptor
  | .device .full => if t.isEmpty then return some m else throw .noSpace
  | .device _ => return some m
  | .sink i => return some { m with sinks := m.sinks.modify i (t :: ·) }
  | .node node =>
    if t.isEmpty then return some m
    let old := m.contents node
    let position := if f.how.appends then old.length else f.position
    if largestFile < position + t.length then throw .tooLarge
    let m := (m.labour old.length).setContents node (overwritten old (Text.toBytes t) position)
    return some (m.setFile id { f with position := position + t.length })
  | .pipe k =>
    if !m.isUsed f.goal (·.reads) then throw .brokenPipe
    match find? k m.pipes with
    | none => throw .brokenPipe
    | some pipe =>
      if pipeCapacity ≤ pipe.size then return none
      let more : Pipe := ⟨pipe.buffer ++ t, pipe.size + t.length⟩
      return some { m with pipes := put k more m.pipes }.wake

/-- Go to another place in a file. -/
def seek (m : State) (p : Process) (fd : Nat) (origin : Origin) (offset : Int) :
    Except IoError (State × Nat) := do
  let (id, f) ← m.file? p fd
  match f.goal with
  | .node node =>
    let from_ : Nat :=
      match origin with
      | .start => 0
      | .current => f.position
      | .finish => (m.contents node).length
    let position := from_ + offset
    if position < 0 then throw .invalidArgument
    return (m.setFile id { f with position := position.toNat }, position.toNat)
  | .device _ => return (m, 0)
  | _ => throw .illegalSeek

/-! ### Files by their names -/

/-- What is known about what is at a location. -/
def factsAt (m : State) (loc : Location) (e : Entry) : FileFacts :=
  let names := match m.nodeAt? loc with | some n => n.places.headD loc | none => loc
  let identity := Text.toRaw (Text.joinWith ['/'] names)
  let changed := (m.changes.find? (·.1 == loc)).elim 0 (·.2)
  match deviceAt? loc, e with
  | some _, _ => ⟨.device, 0, false, changed, identity⟩
  | none, .directory => ⟨.directory, FileSystem.directorySize, true, changed, identity⟩
  | none, .file contents executable =>
    ⟨.regular, contents.length, executable, changed, identity⟩

/-- What is known about what something open leads to. -/
def factsOfFile (m : State) (f : OpenFile) : FileFacts :=
  match f.goal with
  | .node id =>
    match m.nodes.find? (·.id == id) with
    | some ⟨_, loc :: _, _⟩ =>
      m.factsAt loc ((m.fs.at? loc).getD (.file [] false))
    | _ => ⟨.regular, (m.contents id).length, false, 0, Text.decimal id⟩
  | .directory => ⟨.directory, FileSystem.directorySize, true, 0, []⟩
  | .device _ => ⟨.device, 0, false, 0, ['/', 'd', 'e', 'v']⟩
  | .pipe id => ⟨.pipe, 0, false, 0, '|' :: Text.decimal id⟩
  | .sink id => ⟨.pipe, 0, false, 0, '>' :: Text.decimal id⟩

/-- What is known about what is at a path. -/
def facts (m : State) (p : Process) (word : Text) : Except IoError FileFacts := do
  let (loc, present?) ← m.fs.place p.cwd (path word)
  match descriptorAt? loc, present? with
  | some fd, _ => return m.factsOfFile (← m.file? p fd).2
  | none, some e => return m.factsAt loc e
  | none, none => throw .notFound

/-- Give a file another name, in the place of what has had it. -/
def rename (m : State) (p : Process) (word goal : Text) : Except IoError State := do
  let a ← m.fs.entryOf p.cwd (path word)
  let b ← m.fs.entryOf p.cwd (path goal)
  let fs ← m.fs.rename p.cwd (path word) (path goal)
  let isSame := a == b || (m.nodeAt? a).any fun n => n.places.contains b
  return if isSame then m else ((m.forget b).moveNodes a b).withFiles fs

/-- Give a file one more name. -/
def link (m : State) (p : Process) (word goal : Text) : Except IoError State := do
  match ← m.fs.lookup p.cwd (path word), ← m.fs.place p.cwd (path goal) with
  | _, (_, some _) => throw .alreadyExists
  | (_, .directory), _ => throw .notPermitted
  | (a, e), (b, none) =>
    let (m, id) := m.nodeAt a
    let nodes := m.nodes.map fun n => if n.id == id then { n with places := n.places ++ [b] } else n
    return { m with nodes := nodes }.withFiles (m.fs.insert b e)

/-- Change the file system. -/
def edit (m : State) (p : Process) : Edit → Except IoError State
  | .remove word => do
    let fs ← m.fs.remove p.cwd (path word)
    let (loc, _) ← m.fs.place p.cwd (path word)
    return (m.forget loc).withFiles fs
  | .removeDirectory word => do
    match ← m.fs.lookup p.cwd (path word) with
    | (loc, .directory) =>
      if (m.fs.names loc).isEmpty then return m.withFiles (m.fs.erase loc) else throw .notEmpty
    | _ => throw .notADirectory
  | .makeDirectory word => do return m.withFiles (← m.fs.makeDirectory p.cwd (path word))
  | .rename word goal => m.rename p word goal
  | .link word goal => m.link p word goal
  | .resize word size => do
    match ← m.fs.lookup p.cwd (path word) with
    | (_, .directory) => throw .isADirectory
    | (loc, .file contents _) =>
      if largestFile < size then throw .tooLarge
      let contents := contents.take size ++ List.replicate (size - contents.length) 0
      let (m, id) := m.nodeAt loc
      return (m.setContents id contents).collect
  | .setExecutable word executable => do
    match ← m.fs.lookup p.cwd (path word) with
    | (loc, .file contents _) =>
      return m.withFiles (m.fs.insert loc (.file contents executable))
    | _ => return m
  | .touch word => do
    let (loc, _) ← m.fs.lookup p.cwd (path word)
    return m.noteChange loc

/-- Make a directory the one in which relative paths start. -/
def enter (m : State) (p : Process) (word : Text) : Except IoError State := do
  match ← m.fs.lookup p.cwd (path word) with
  | (loc, .directory) => return m.modify p.pid ({ · with cwd := loc })
  | _ => throw .notADirectory

/-! ### Programs -/

/-- The program of a name: what is run for its arguments and variables. -/
abbrev Catalogue := Text → Option (List Text → Environment → Program)

/-- The interpreter that the first line of a file names, and an argument for it. -/
def interpreter? (contents : Text) : Option (Text × Option Text) :=
  (Text.afterPrefix? ['#', '!'] contents).map fun s =>
    let isGap (c : Char) : Bool := c == ' ' || c == '\t'
    let line := (s.takeWhile (· != '\n')).dropWhile isGap
    let argument := (line.dropWhile (!isGap ·)).dropWhile isGap
    let argument := (argument.reverse.dropWhile isGap).reverse
    (line.takeWhile (!isGap ·), if argument.isEmpty then none else some argument)

/-- The directories in which programs are installed. -/
def programDirectories : List Location :=
  [["usr".toList, "bin".toList], ["bin".toList]]

/-- How long an argument of a program may be. -/
def maxArgument : Nat := 131071

/-- How long all arguments and variables of a program may be together. -/
def maxArguments : Nat := 2097152

/-- Whether arguments and variables are too long for a program. -/
def isTooLong (arguments : List Text) (environment : Environment) : Bool :=
  let texts := arguments ++ environment.map fun (name, value) => name ++ '=' :: value
  texts.any (maxArgument < ·.length) ||
    maxArguments < (texts.map (·.length + 9)).foldl (· + ·) 0

/-- The program that runs when a file is executed.  A script is handed to the interpreter that it
names, which may be a script itself. -/
def programAt (m : State) (p : Process) (catalogue : Catalogue) (environment : Environment) :
    Nat → Text → List Text → Except IoError Program
  | 0, _, _ => .error .badInterpreter
  | depth + 1, word, arguments => do
    match ← m.fs.lookup p.cwd (path word) with
    | (_, .directory) => throw .permissionDenied
    | (loc, .file contents executable) =>
      if !executable then throw .permissionDenied
      if isTooLong arguments environment then throw .argumentsTooLong
      let installed? :=
        if programDirectories.contains loc.dropLast then loc.getLast?.bind catalogue else none
      match installed?, interpreter? (Text.ofBytes contents) with
      | some program, _ => return program arguments environment
      | none, some (interpreter, argument?) =>
        m.programAt p catalogue environment depth interpreter
          (interpreter :: argument?.toList ++ word :: arguments.drop 1)
      | none, none => throw .badInterpreter

/-- What is left of a process when it becomes another program. -/
def becoming (p : Process) : Process :=
  { p with responses := p.responses.filter (·.2 == .ignored), arrivals := [] }

/-! ### Children -/

/-- What a process hears of its children. -/
def news (m : State) (p : Process) (pid? : Option Nat) : State × News :=
  let children := m.processes.filter fun q =>
    q.parent == p.pid && (pid?.isNone || pid? == some q.pid)
  let ended := children.filterMap fun q => q.ending?.map fun (time, status) => (time, q.pid, status)
  let first? := ended.foldl (fun (best? : Option (Nat × Nat × Status)) e =>
    match best? with
    | some best => if e.1 < best.1 then some e else some best
    | none => some e) none
  match first? with
  | some (_, pid, status) =>
    ({ m with processes := m.processes.filter (·.pid != pid) }, .ended pid status)
  | none => (m, if children.isEmpty then .noChild else .nothingYet)

/-! ### All calls -/

/-- The machine after something that may fail, and what comes of it. -/
def settled {α : Type} (m : State) : Except IoError (State × α) → State × Except IoError α
  | .ok (m, a) => (m, .ok a)
  | .error e => (m, .error e)

/-- The machine after something that may fail, and whether it has failed. -/
def tried (m : State) : Except IoError State → State × Except IoError Unit
  | .ok m => (m, .ok ())
  | .error e => (m, .error e)

/-- Perform a call of a process. -/
def perform (m : State) (catalogue : Catalogue) (p : Process) : (c : Call) → Outcome c
  | .pass work => .answered { m with work := m.work + work } ()
  | .openFile word how =>
    let (m, a) := m.settled (m.openFile p word how)
    .answered m a
  | .close fd =>
    let (m, a) := m.tried ((m.file? p fd).map fun (_, f) => m.detach p.pid fd f)
    .answered m a
  | .duplicate fd least =>
    let free := p.freeDescriptor least
    let (m, a) := m.settled ((m.file? p fd).map fun (id, _) => (m.attach p.pid free id, free))
    .answered m a
  | .connect fd source =>
    let (m, a) := m.tried ((m.file? p source).map fun (id, _) => (m.attach p.pid fd id).collect.wake)
    .answered m a
  | .read fd most =>
    match m.readFrom p fd most with
    | .ok (some (m, t)) => .answered (m.labour t.length) (.ok t)
    | .ok none => .waits
    | .error e => .answered m (.error e)
  | .write fd t =>
    match m.writeTo p fd t with
    | .ok (some m) => .answered (m.labour t.length) (.ok ())
    | .ok none => .waits
    | .error .brokenPipe =>
      match p.response Signal.pipe with
      | .byDefault => .broken (m.deliver p Signal.pipe)
      | _ => .answered (m.deliver p Signal.pipe) (.error .brokenPipe)
    | .error e => .answered m (.error e)
  | .seek fd origin offset =>
    let (m, a) := m.settled (m.seek p fd origin offset)
    .answered m a
  | .pipe =>
    let id := m.nextId
    let m := { m with pipes := put id ⟨[], 0⟩ m.pipes, nextId := id + 1 }
    let (m, source) := m.addFile ⟨.pipe id, .input, 0⟩
    let (m, drain) := m.addFile ⟨.pipe id, { Opening.input with reads := false, writes := true }, 0⟩
    let a := p.freeDescriptor 0
    let b := p.freeDescriptor (a + 1)
    .answered ((m.attach p.pid a source).attach p.pid b drain) (a, b)
  | .facts word => .answered m (m.facts p word)
  | .factsOf fd => .answered m ((m.file? p fd).map fun (_, f) => m.factsOfFile f)
  | .list word => .answered m ((m.fs.list p.cwd (path word)).map (·.map Text.toRaw))
  | .edit e =>
    let (m, a) := m.tried (m.edit p e)
    .answered m a
  | .enter word =>
    let (m, a) := m.tried (m.enter p word)
    .answered m a
  | .directory => .answered m (Text.toRaw ('/' :: Text.joinWith ['/'] p.cwd))
  | .execute word arguments environment =>
    match m.programAt p catalogue environment 4 word arguments with
    | .ok program => .replaced (m.modify p.pid becoming) program
    | .error e => .answered m e
  | .wait pid? blocks =>
    match m.news p pid? with
    | (m, .nothingYet) =>
      if !p.arrivals.isEmpty then .answered m .interrupted
      else if blocks then .waits
      else .answered m .nothingYet
    | (m, news) => .answered m news
  | .signal pid n =>
    match m.process? pid with
    | none => .answered m (.error .noProcess)
    | some q =>
      let m := m.deliver q n
      match m.process? p.pid with
      | some p => if p.isReady then .answered m (.ok ()) else .broken m
      | none => .broken m
  | .respond n r =>
    let others := p.responses.filter (·.1 != n)
    .answered (m.modify p.pid ({ · with responses := (n, r) :: others })) ()
  | .arrivals => .answered (m.modify p.pid ({ · with arrivals := [] })) p.arrivals
  | .sleep _ => .answered m ()
  | .clock => .answered m m.now
  | .identity => .answered m (p.pid, p.parent)

end State
end RuleSets.Machine
