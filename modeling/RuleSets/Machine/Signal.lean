import RuleSets.Text.Numeral

/-!
# Signals

The names and numbers of signals, and what they do to a process that has not prepared for them.
-/

namespace RuleSets.Machine

/-- The number of a signal. -/
abbrev Signal := Nat

namespace Signal

/-- The signal that tells a process that nobody reads what it writes. -/
def pipe : Signal := 13

/-- The signal that asks a process to end. -/
def terminate : Signal := 15

/-- The signal that tells a process that a child of it has ended. -/
def child : Signal := 17

/-- The names of signals, from number zero, which stands for the end of a shell. -/
def names : List Text :=
  ["EXIT", "HUP", "INT", "QUIT", "ILL", "TRAP", "ABRT", "BUS", "FPE", "KILL", "USR1", "SEGV", "USR2",
    "PIPE", "ALRM", "TERM", "16", "CHLD", "CONT", "STOP", "TSTP", "TTIN", "TTOU", "URG", "XCPU",
    "XFSZ", "VTALRM", "PROF", "WINCH", "IO", "PWR", "SYS", "32", "33", "RTMIN"].map String.toList ++
  (List.range 15).map (fun n => "RTMIN+".toList ++ Text.decimal (n + 1)) ++
  (List.range 14).map (fun n => "RTMAX-".toList ++ Text.decimal (14 - n)) ++ ["RTMAX".toList]

/-- The largest number of a signal. -/
def last : Signal := 64

/-- The name of a signal; those without one are called by their number. -/
def name (n : Signal) : Text := (names[n]?).getD (Text.decimal n)

/-- The signal of a number or a name. -/
def parse? (word : Text) : Option Signal :=
  if !word.isEmpty && word.all Char.isDigit then
    let n := Text.valueOf 10 word
    if n ≤ last then some n else none
  else
    let word := word.map Char.toUpper
    let word := (Text.afterPrefix? "SIG".toList word).getD word
    names.findIdx? (· == word)

/-- What is told of a process that a signal has killed. -/
def description (n : Signal) : Text :=
  let texts : List String :=
    ["", "Hangup", "Interrupt", "Quit", "Illegal instruction", "Trace/breakpoint trap", "Aborted",
      "Bus error", "Floating point exception", "Killed", "User defined signal 1",
      "Segmentation fault", "User defined signal 2", "Broken pipe", "Alarm clock", "Terminated",
      "Stack fault", "Child exited", "Continued", "Stopped (signal)", "Stopped",
      "Stopped (tty input)", "Stopped (tty output)", "Urgent I/O condition",
      "CPU time limit exceeded", "File size limit exceeded", "Virtual timer expired",
      "Profiling timer expired", "Window changed", "I/O possible", "Power failure",
      "Bad system call"]
  match texts[n]? with
  | some s => s.toList
  | none =>
    if n < 34 then "Unknown signal ".toList ++ Text.decimal n
    else "Real-time signal ".toList ++ Text.decimal (n - 34)

/-- What a signal does to a process that has not prepared for it. -/
inductive Effect where
  | nothing
  | stop
  | resume
  | kill
deriving DecidableEq, Repr

/-- The effect of a signal. -/
def effect (n : Signal) : Effect :=
  if [0, 17, 23, 28].contains n then .nothing
  else if n = 18 then .resume
  else if [19, 20, 21, 22].contains n then .stop
  else .kill

/-- Whether a process cannot prepare for a signal. -/
def isFinal (n : Signal) : Bool := n == 9 || n == 19

/-- How a process responds to a signal. -/
inductive Response where
  | byDefault
  | ignored
  | noticed
deriving DecidableEq, Repr

end Signal
end RuleSets.Machine
