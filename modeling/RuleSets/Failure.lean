import RuleSets.Text.Basic

/-!
# Failures

What can go wrong, and how it is reported.  The operating system reports an error number; everything
else is reported by the part that failed.
-/

namespace RuleSets

/-- An error that the operating system or the reading of a file reports. -/
inductive IoError where
  | notFound
  | permissionDenied
  | alreadyExists
  | notADirectory
  | isADirectory
  | invalidArgument
  | notEmpty
  | busy
  | nameTooLong
  | badInterpreter
  | badDescriptor
  | noProcess
  | notPermitted
  | noDevice
  | noSpace
  | illegalSeek
  | brokenPipe
  | invalidUtf8
  | nulInPath
  | nulInArgument
  | argumentsTooLong
  | tooLarge
deriving DecidableEq, Repr

/-- The wording of an error. -/
def IoError.message : IoError → Text
  | notFound => "No such file or directory (os error 2)".toList
  | permissionDenied => "Permission denied (os error 13)".toList
  | alreadyExists => "File exists (os error 17)".toList
  | notADirectory => "Not a directory (os error 20)".toList
  | isADirectory => "Is a directory (os error 21)".toList
  | invalidArgument => "Invalid argument (os error 22)".toList
  | busy => "Device or resource busy (os error 16)".toList
  | notEmpty => "Directory not empty (os error 39)".toList
  | nameTooLong => "File name too long (os error 36)".toList
  | badInterpreter => "Exec format error (os error 8)".toList
  | badDescriptor => "Bad file descriptor (os error 9)".toList
  | noProcess => "No such process (os error 3)".toList
  | notPermitted => "Operation not permitted (os error 1)".toList
  | noDevice => "No such device or address (os error 6)".toList
  | noSpace => "No space left on device (os error 28)".toList
  | illegalSeek => "Illegal seek (os error 29)".toList
  | brokenPipe => "Broken pipe (os error 32)".toList
  | invalidUtf8 => "stream did not contain valid UTF-8".toList
  | nulInPath => "file name contained an unexpected NUL byte".toList
  | nulInArgument => "nul byte found in provided data".toList
  | argumentsTooLong => "Argument list too long (os error 7)".toList
  | tooLarge => "File too large (os error 27)".toList

/-- How a compiler run can fail. -/
inductive CompileFault where
  /-- The compiler could not be started. -/
  | spawn
  /-- It was killed because its time was over. -/
  | timeout
  /-- It exited with another status than zero. -/
  | nonZeroExit
  /-- It exited cleanly without having written its output. -/
  | missingOutput
  /-- It exited cleanly with an output of no bytes. -/
  | emptyOutput
deriving DecidableEq, Repr

/-- A failure as it is reported. -/
inductive Failure where
  | fetch (url message : Text)
  | manifest (message : Text)
  | compile (fault : CompileFault) (message : Text)
  | config (message : Text)
  | io (error : IoError)
deriving DecidableEq, Repr

namespace Failure

/-- The report of a failure. -/
def report : Failure → Text
  | fetch url message => "Fetch error for ".toList ++ url ++ ": ".toList ++ message
  | manifest message => "Manifest error: ".toList ++ message
  | compile _ message => "Compile error: ".toList ++ message
  | config message => "Config error: ".toList ++ message
  | io error => "IO error: ".toList ++ error.message

/-- The way in which a compiler run failed, if the failure is one. -/
def compileFault? : Failure → Option CompileFault
  | compile fault _ => some fault
  | _ => none

end Failure
end RuleSets
