import CheckPlan.CommandLine.Execute
import CheckPlan.Files.Tree
import Std.Time.Format
import Std.Time.Zoned

namespace CheckPlan

/-- The cause of a failure of the operating system. -/
def FileError.ofSystem : IO.Error → FileError
  | .noFileOrDirectory .. => .notFound
  | .inappropriateType _ code details =>
    if code = 20 then .notADirectory
    else if code = 21 then .isADirectory
    else .other details
  | .invalidArgument _ code details =>
    if code = 36 then .nameTooLong else .other details
  | error => .other (toString error)

instance : FileAccess IO where
  read path := do
    if path.contains '\x00' then
      return .error .nulInPath
    try
      return (FileContent.ofBytes (← IO.FS.readBinFile path.string)).decode
    catch error => return .error (.ofSystem error)
  write path text := do
    if path.contains '\x00' then
      return .error .nulInPath
    try
      IO.FS.writeFile path.string text.string
      return .ok ()
    catch error => return .error (.ofSystem error)

/-- What this command says about what it refuses. It does not tell where a settings
    file or a command line goes wrong. -/
def CommandLine.complaints : CommandLine.Complaints where
  settings _ := "not a document of settings"
  arguments _ :=
    "error: invalid arguments\n" ++
    "\n" ++
    "Usage: checkgen [OPTIONS]\n" ++
    "\n" ++
    "For more information, try '--help'.\n"

/-- Prints what a command leaves behind, the log first. -/
def CommandLine.Execution.print (execution : CommandLine.Execution) (time : String) : IO Unit := do
  for event in execution.log do
    IO.eprintln s!"{time} {event.line}"
  IO.eprint execution.stderr
  IO.print execution.stdout

end CheckPlan

open CheckPlan in
/-- Carries out the command line, and ends with the exit status. -/
def main (arguments : List String) : IO UInt32 := do
  let time := (← Std.Time.DateTime.now).format "uuuu-MM-dd HH:mm:ss Z"
  let filter := (← IO.getEnv "RUST_LOG").map String.toList
  let execution ← CommandLine.execute CommandLine.complaints ⟨filter, time.toList⟩
    (arguments.map String.toList)
  execution.print time
  return UInt32.ofNat execution.status
