import RuleSets.Machine.Perform

/-!
# Running a machine

Of the processes that can go on, the one whose time comes first makes its next call.  A call takes
some time, so processes run side by side.  A run lasts until the first process has ended and all
that others still do cannot be seen any more.
-/

namespace RuleSets.Machine

/-- The microseconds that a call takes. -/
def Call.duration : Call → Nat
  | .sleep microseconds => microseconds
  | .execute _ _ _ => 600
  | .openFile _ _ | .pipe => 5
  | _ => 1

/-- The microseconds after which a child starts. -/
def forkLatency : Nat := 250

/-- The microseconds that starting a child takes. -/
def forkDuration : Nat := 120

namespace State

/-- Of two processes the one that goes on first; of equals, the first. -/
def sooner (best? : Option Process) (p : Process) : Option Process :=
  match best? with
  | some best => if p.due < best.due then some p else some best
  | none => some p

/-- The process that goes on next. -/
def next? (m : State) : Option Process :=
  (m.processes.filter Process.isReady).foldl sooner none

/-- Let a process go on with a program after some time. -/
def goOn (m : State) (pid duration : Nat) (program : Program) : State :=
  m.modify pid fun p => { p with program := program, due := m.now + duration }

/-- The child of a process. -/
def child (m : State) (p : Process) (program : Program) : Process :=
  { p with
    pid := m.nextPid, parent := p.pid, program := program, due := m.now + forkLatency
    arrivals := [] }

/-- Let a process make its next call. -/
def step (m : State) (catalogue : Catalogue) (p : Process) : State :=
  let m := { m with now := p.due, work := m.work + 1 }
  match p.program with
  | .exit code => m.finish p.pid (.exited (code % 256))
  | .fork child next =>
    let m' := { m with processes := m.processes ++ [m.child p child], nextPid := m.nextPid + 1 }
    m'.goOn p.pid forkDuration (next m.nextPid)
  | .call c next =>
    match m.perform catalogue p c with
    | .answered m a => m.goOn p.pid c.duration (next a)
    | .waits => m.modify p.pid fun p => { p with isBlocked := true }
    | .broken m => m
    | .replaced m program => m.goOn p.pid c.duration program

/-- Whether anybody can still write what leaves the machine. -/
def isOpen (m : State) : Bool :=
  m.files.any fun (id, f) =>
    match f.goal with
    | .sink _ => m.isHeld id
    | _ => false

/-- The moment from which on nothing can be seen: whoever waits for the first process has looked,
and nobody can write any more. -/
def horizon (m : State) : Nat :=
  match m.ending? with
  | none => Job.longest * 1000
  | some (time, _) =>
    if m.isOpen then Job.longest * 1000 else Job.lastLook (time / 1000) * 1000

/-- The most work that a machine does. -/
def maxWork : Nat := 600000

/-- Run a machine for a number of calls at most. -/
def runFor (catalogue : Catalogue) : Nat → State → State
  | 0, m => m
  | n + 1, m =>
    match m.next? with
    | none => m
    | some p =>
      if p.due ≤ m.horizon && m.work ≤ maxWork then runFor catalogue n (m.step catalogue p) else m

/-- Run a machine.  Every call is work, so the work that it does at most bounds the calls. -/
def run (catalogue : Catalogue) (m : State) : State := m.runFor catalogue (maxWork + 1)

/-- The job that a run has been: what the first process has done and what could be seen of it. -/
def toJob (m : State) : Job where
  steps := m.steps.reverse
  ending? := m.ending?.map fun (time, status) => (time / 1000, status)
  output := Text.toBytes (m.sinks.flatMap fun ts => ts.reverse.flatten)

end State
end RuleSets.Machine
