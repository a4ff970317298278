import RuleSets.Machine.Call

/-!
# The state of a machine

A machine has a file system, a clock and processes.  A process sees files through numbered
descriptors.  What is open keeps its place in a file and stays with the file when that gets another
name or loses its last one.
-/

namespace RuleSets.Machine

/-- A file that is no file on a disk. -/
inductive Device where
  | null
  | zero
  | full
  | terminal
deriving DecidableEq, Repr

/-- Where something open leads. -/
inductive Goal where
  | node (id : Nat)
  | directory
  | device (d : Device)
  | pipe (id : Nat)
  /-- Output that leaves the machine. -/
  | sink (index : Nat)
deriving DecidableEq, Repr

/-- Something open: where it leads, what may be done with it, and the place reached in a file. -/
structure OpenFile where
  goal : Goal
  how : Opening
  position : Nat

/-- A file that is open or has several names: its names, and what is in it once it has none. -/
structure Node where
  id : Nat
  places : List Location
  orphaned : Bytes

/-- What has been written to a pipe and not been read, and how much that is. -/
structure Pipe where
  buffer : Text
  size : Nat

/-- A process. -/
structure Process where
  pid : Nat
  parent : Nat
  program : Program
  /-- When it goes on. -/
  due : Nat
  /-- Whether it waits for something to happen. -/
  isBlocked : Bool
  /-- Whether a signal has stopped it. -/
  isStopped : Bool
  /-- The numbers of what it has open. -/
  descriptors : List (Nat × Nat)
  cwd : Location
  responses : List (Signal × Signal.Response)
  /-- The signals that it has yet to notice. -/
  arrivals : List Signal
  /-- How and when it ended, while its parent has not asked. -/
  ending? : Option (Nat × Status)

/-- The state of a machine.  Times are microseconds. -/
structure State where
  fs : FileSystem
  now : Nat
  /-- The state in which the file system was after each millisecond in which it changed, the latest
  first. -/
  steps : List (Nat × FileSystem)
  /-- When files were changed last. -/
  changes : List (Location × Nat)
  processes : List Process
  files : List (Nat × OpenFile)
  nodes : List Node
  pipes : List (Nat × Pipe)
  /-- What has left the machine, the latest first. -/
  sinks : List (List Text)
  nextId : Nat
  nextPid : Nat
  /-- How much all calls have had to do. -/
  work : Nat
  /-- How and when the first process ended. -/
  ending? : Option (Nat × Status)

/-- The value under a key. -/
def find? {α : Type} (k : Nat) (l : List (Nat × α)) : Option α := (l.find? (·.1 == k)).map (·.2)

/-- Put a value under a key. -/
def put {α : Type} (k : Nat) (a : α) (l : List (Nat × α)) : List (Nat × α) := (k, a) :: l.filter (·.1 != k)

namespace Process

/-- Whether a process has not ended. -/
def isAlive (p : Process) : Bool := p.ending?.isNone

/-- Whether a process can go on when its time comes. -/
def isReady (p : Process) : Bool := p.isAlive && !p.isBlocked && !p.isStopped

/-- How a process responds to a signal. -/
def response (p : Process) (n : Signal) : Signal.Response := (find? n p.responses).getD .byDefault

/-- Let a process know of a signal. -/
def notice (p : Process) (n : Signal) : Process :=
  if p.arrivals.contains n then p else { p with arrivals := p.arrivals ++ [n] }

/-- The least number from `least` that is no descriptor. -/
def freeDescriptor (p : Process) (least : Nat) : Nat :=
  ((List.range (p.descriptors.length + 1)).map (· + least)).find?
    (fun k => (find? k p.descriptors).isNone) |>.getD least

end Process

namespace State

/-! ### Files -/

/-- The path that a raw text spells. -/
def path (word : Text) : Path := ⟨Text.ofRaw word⟩

/-- Give the machine another file system. -/
def withFiles (m : State) (fs : FileSystem) : State :=
  let time := m.now / 1000
  let before := match m.steps with
    | (t, fs') :: rest => if t = time then rest else (t, fs') :: rest
    | [] => []
  { m with fs := fs, steps := (time, fs) :: before }

/-- Account for bytes that have been moved. -/
def labour (m : State) (bytes : Nat) : State := { m with work := m.work + bytes / 64 }

/-- Note that a file has been changed now. -/
def noteChange (m : State) (loc : Location) : State :=
  { m with changes := (loc, m.now) :: m.changes.filter (·.1 != loc) }

/-- The node at a location, if it is known. -/
def nodeAt? (m : State) (loc : Location) : Option Node := m.nodes.find? (·.places.contains loc)

/-- The node at a location. -/
def nodeAt (m : State) (loc : Location) : State × Nat :=
  match m.nodeAt? loc with
  | some n => (m, n.id)
  | none =>
    ({ m with nodes := ⟨m.nextId, [loc], []⟩ :: m.nodes, nextId := m.nextId + 1 }, m.nextId)

/-- What is in a file. -/
def contents (m : State) (id : Nat) : Bytes :=
  match m.nodes.find? (·.id == id) with
  | some ⟨_, loc :: _, _⟩ =>
    match m.fs.at? loc with
    | some (.file contents _) => contents
    | _ => []
  | some n => n.orphaned
  | none => []

/-- Replace what is in a file at a location. -/
def setAt (contents : Bytes) (m : State) (loc : Location) : State :=
  match m.fs.at? loc with
  | some (.file _ executable) =>
    (m.withFiles (m.fs.insert loc (.file contents executable))).noteChange loc
  | _ => m

/-- Replace what is in a file, under all its names. -/
def setContents (m : State) (id : Nat) (contents : Bytes) : State :=
  match m.nodes.find? (·.id == id) with
  | some ⟨_, [], _⟩ =>
    { m with nodes := m.nodes.map fun n => if n.id == id then { n with orphaned := contents } else n }
  | some n => n.places.foldl (setAt contents) m
  | none => m

/-- Take a name away from the node that has it; the last name leaves the contents with the node. -/
def forget (m : State) (loc : Location) : State :=
  match m.nodeAt? loc with
  | none => m
  | some n =>
    let n' : Node := { n with places := n.places.filter (· != loc), orphaned := m.contents n.id }
    { m with nodes := m.nodes.map fun k => if k.id == n.id then n' else k }

/-- Give every node below a location the name that it gets by a move. -/
def moveNodes (m : State) (a b : Location) : State :=
  let moved (loc : Location) : Location :=
    if a.isPrefixOf loc then b ++ loc.drop a.length else loc
  { m with
    nodes := m.nodes.map fun n => { n with places := n.places.map moved }
    changes := m.changes.map fun (loc, time) => (moved loc, time) }

/-! ### Processes -/

/-- A process by its number. -/
def process? (m : State) (pid : Nat) : Option Process := m.processes.find? (·.pid == pid)

/-- Change a process. -/
def modify (m : State) (pid : Nat) (f : Process → Process) : State :=
  { m with processes := m.processes.map fun p => if p.pid == pid then f p else p }

/-- The microseconds after which somebody who waits notices that something has happened. -/
def wakeLatency : Nat := 20

/-- Let everyone look again who waits for something to happen. -/
def wake (m : State) : State :=
  { m with processes := m.processes.map fun p =>
      if p.isBlocked then { p with isBlocked := false, due := max p.due (m.now + wakeLatency) }
      else p }

/-- Whether a process that has not ended has something open. -/
def isHeld (m : State) (file : Nat) : Bool :=
  m.processes.any fun p => p.isAlive && p.descriptors.any (·.2 == file)

/-- Whether there is something open that leads to a goal and can be used in a way. -/
def isUsed (m : State) (goal : Goal) (use : Opening → Bool) : Bool :=
  m.files.any fun (id, f) => f.goal == goal && use f.how && m.isHeld id

/-- Forget what nobody has open any more. -/
def collect (m : State) : State :=
  let files := m.files.filter fun (id, _) => m.isHeld id
  let leads (goal : Goal) : Bool := files.any fun (_, f) => f.goal == goal
  { m with
    files := files
    pipes := m.pipes.filter fun (id, _) => leads (.pipe id)
    nodes := m.nodes.filter fun n => 1 < n.places.length || leads (.node n.id) }

/-- Let a descriptor of a process lead to something open. -/
def attach (m : State) (pid descriptor file : Nat) : State :=
  m.modify pid fun p => { p with descriptors := put descriptor file p.descriptors }

/-- Close a descriptor of a process.  Who waits at a pipe may have waited for that. -/
def detach (m : State) (pid descriptor : Nat) (f : OpenFile) : State :=
  let m := (m.modify pid fun p =>
    { p with descriptors := p.descriptors.filter (·.1 != descriptor) }).collect
  match f.goal with
  | .pipe _ => m.wake
  | _ => m

/-- Add something open. -/
def addFile (m : State) (f : OpenFile) : State × Nat :=
  ({ m with files := (m.nextId, f) :: m.files, nextId := m.nextId + 1 }, m.nextId)

/-- Change something open. -/
def setFile (m : State) (id : Nat) (f : OpenFile) : State :=
  { m with files := m.files.map fun e => if e.1 == id then (id, f) else e }

/-- What a descriptor of a process leads to. -/
def file? (m : State) (p : Process) (descriptor : Nat) : Except IoError (Nat × OpenFile) :=
  match find? descriptor p.descriptors with
  | none => .error .badDescriptor
  | some id =>
    match find? id m.files with
    | none => .error .badDescriptor
    | some f => .ok (id, f)

/-- End a process.  Its children lose their parent, and nobody asks for those that have ended. -/
def finish (m : State) (pid : Nat) (status : Status) : State :=
  let isRoot := m.processes.any fun p => p.pid == pid && p.parent == 0
  let hasParent := m.processes.any fun p =>
    p.pid == pid && m.processes.any fun q => q.pid == p.parent && q.isAlive
  let others := m.processes.filter fun p => p.parent != pid || p.isAlive
  let others := others.map fun p => if p.parent == pid then { p with parent := 1 } else p
  let m := { m with
    processes := if hasParent then others else others.filter (·.pid != pid)
    ending? := if isRoot then some (m.now, status) else m.ending? }
  let isChild (p q : Process) : Bool := p.pid == pid && p.parent == q.pid
  let tell (q : Process) : Process :=
    if m.processes.any (isChild · q) && q.response Signal.child == .noticed then
      q.notice Signal.child
    else q
  let settle (p : Process) : Process :=
    if p.pid == pid then { p with ending? := some (m.now, status), descriptors := [] } else tell p
  ({ m with processes := m.processes.map settle } : State).collect.wake

/-- Send a signal to a process. -/
def deliver (m : State) (p : Process) (n : Signal) : State :=
  let noticed := m.modify p.pid (·.notice n)
  if !p.isAlive || n = 0 then m
  else
    match (if Signal.isFinal n then .byDefault else p.response n) with
    | .ignored => m
    | .noticed => noticed.wake
    | .byDefault =>
      match Signal.effect n with
      | .nothing => m
      | .stop => m.modify p.pid fun p => { p with isStopped := true }
      | .resume => m.modify p.pid fun p => { p with isStopped := false }
      | .kill => m.finish p.pid (.signalled n)

end State
end RuleSets.Machine
