import PeerLink.Cli.Rehearsal

/-! # The program

Runs one command line and ends with its exit code. The command works on a host of its own: the
regions of a host begin and end with it.
-/

namespace PeerLink.Program

/-- The number under which a command runs. -/
def pid : UInt32 := 1

/-- The process of the command, the only one on its host. -/
def process : Process := ⟨pid, (· == pid)⟩

/-- The portable kind of a refused file access. -/
def kindOf : IO.Error → IoErrorKind
  | .noFileOrDirectory _ _ _ => .notFound
  | .permissionDenied _ _ _ => .permissionDenied
  | .inappropriateType _ _ _ => .isADirectory
  | .interrupted _ _ _ => .interrupted
  | .resourceExhausted _ _ _ => .outOfMemory
  | .invalidArgument _ _ _ => .invalidInput
  | .unsupportedOperation _ _ => .unsupported
  | .resourceBusy _ _ => .resourceBusy
  | .timeExpired _ _ => .timedOut
  | .unexpectedEof => .unexpectedEof
  | _ => .other

/-- The content of a file, or why it cannot be read. -/
def readFile (path : String) : IO (Except IoError Bytes) := do
  try
    let content ← IO.FS.readBinFile path
    return .ok content.data.toList
  catch e => return .error (.ofKind (kindOf e))

/-- The path of the file that a command line names, if it names one. -/
def fileOf (environment : String → Option String) (words : List String) : Option String :=
  match CommandLine.parse environment words with
  | .ok ⟨.send o, _⟩ => o.payload.file
  | _ => none

/-- The variables that a command line may rest on, as they are set. -/
def setVariables : IO (List (String × String)) := do
  let names := (CommandLine.globalOptions ++ CommandLine.linkOptions).filterMap (·.envName)
  let values ← names.mapM fun name => do return (name, ← IO.getEnv name)
  return values.filterMap fun (name, value) => value.map ((name, ·))

/-- Runs a command line; the answer is the exit code. Nobody else is on the host to send a message,
so the time of day is never shown. -/
def run (words : List String) : IO ExitCode := do
  let set ← setVariables
  let environment (name : String) : Option String := set.lookup name
  let file ← (fileOf environment words).mapM readFile
  let setting : Setting :=
    { process
      kernel := .able
      readFile := fun _ => file.getD (.error (.system .noEntry))
      timeOfDay := "0"
      platform := ("unknown", "unknown", "unknown") }
  let outcome := Rehearsal.perform setting environment words none ""
  (← IO.getStdout).write ⟨outcome.output.toArray⟩
  outcome.errors.forM fun line => IO.eprintln line
  return outcome.code

end PeerLink.Program

/-- Runs the command line of the process. -/
def main (words : List String) : IO UInt32 := do
  return UInt32.ofNat (← PeerLink.Program.run words)
