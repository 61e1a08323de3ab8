/-
# The command line program

Gives the program its arguments, the files and the environment, and writes what
it answers.

Key definitions: `CommandLine.perform`.
-/
import Invocation.CommandLine.Program

namespace Invocation
namespace CommandLine

/-- The message of a line that cannot be used. -/
def usageHint : String := "error: unusable arguments\n\nFor more information, try '--help'."

/-- What is found at a path. -/
def readEntry (path : String) : IO FileEntry := do
  try
    return .file (← IO.FS.readBinFile path)
  catch
    | .noFileOrDirectory .. => return .missing
    | _ => return .unreadable

/-- The text of a one-line system file. -/
def readFact (path : String) : IO String := do
  try
    let text ← IO.FS.readFile path
    return text.trimAscii.toString
  catch _ => return "unknown"

/-- The path that a command line reads its configuration from. -/
def configPath (request : Request) : String :=
  match request with
  | .check arguments => arguments.config.getD Configuration.defaultFile
  | .info config => config.getD Configuration.defaultFile
  | _ => Configuration.defaultFile

/-- Does what a command line asks for, and gives the exit code. -/
def perform (arguments : List String) : IO UInt32 := do
  let path := configPath (Request.ofArguments arguments)
  let entry ← readEntry path
  let names := [logVariable, "CLICOLOR_FORCE", "NO_COLOR", "TERM"]
  let values ← names.mapM fun name => return (name, ← IO.getEnv name)
  let system ← readFact "/proc/sys/kernel/ostype"
  let machine ← readFact "/proc/sys/kernel/arch"
  let env : Environment :=
    { valueOf := fun name => (values.lookup name).join
      files := fun p => if p = path then entry else .missing
      platform := system.toLower ++ " (" ++ machine ++ ")" }
  let start ← IO.monoNanosNow
  let outcome ← IO.lazyPure fun _ => run env arguments
  let stop ← IO.monoNanosNow
  IO.print (outcome.output (milliseconds (stop - start)))
  match outcome.failure with
  | some failure => IO.eprintln ("Error: " ++ failure.message)
  | none => if outcome.code = 2 then IO.eprintln usageHint
  return outcome.code.toUInt32

end CommandLine
end Invocation

def main (arguments : List String) : IO UInt32 := Invocation.CommandLine.perform arguments
