/-!
# Failures

Everything that can end a run or spoil one invocation, and the one place where it is worded.
-/

namespace Fixtures

/-- Why a run, or one of its invocations, failed. Paths and commands are kept in their shown
form. -/
inductive Failure where
  /-- The scripts directory is not a directory. -/
  | directoryNotFound (path : String)
  /-- The scripts directory cannot be listed. -/
  | directoryUnreadable (path : String)
  /-- The last bytes of a report could not be written. -/
  | fileNotWritten (path : String)
  /-- The echo of captured output was refused. -/
  | outputRefused
  /-- There is no program of that name. -/
  | commandNotFound (command : String)
  /-- The program exists but could not be started. -/
  | commandNotStarted (command : String)
  /-- The program ran and did not exit with zero. -/
  | commandFailed (command status stderr : String)
  /-- The batch came to its end with failed scripts. -/
  | batchFailed (failed total : Nat)
  /-- The settings make no sense together. -/
  | invalidArgument (reason : String)
  /-- The report could not be opened or written. -/
  | reportRefused (reason : String)
  deriving DecidableEq, Repr

namespace Failure

/-- The text that is shown for a failure. -/
def message : Failure → String
  | directoryNotFound path => "Directory not found: " ++ path
  | directoryUnreadable path => "Failed to read directory: " ++ path
  | fileNotWritten path => "Failed to write file: " ++ path
  | outputRefused => "Failed to write to standard output"
  | commandNotFound command => "External command '" ++ command ++ "' not found"
  | commandNotStarted command => "Failed to run external command '" ++ command ++ "'"
  | commandFailed command status stderr =>
    "External command failed (" ++ status ++ "): " ++ command ++ "\n" ++ stderr
  | batchFailed failed total =>
    toString failed ++ " of " ++ toString total ++ " scripts failed to parse"
  | invalidArgument reason => "Invalid argument: " ++ reason
  | reportRefused reason => "CSV error: " ++ reason

end Failure

end Fixtures
