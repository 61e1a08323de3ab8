/-
# The program

What a command line does: the text it writes, its exit code, and the failure it
ends in if there is one. The program sees its surroundings through an
`Environment`.

Key definitions: `Environment`, `Outcome`, `CommandLine.run`.
-/
import Invocation.CommandLine.Arguments
import Invocation.CommandLine.Check
import Invocation.CommandLine.Help
import Invocation.CommandLine.Info
import Invocation.Conformance.Run

namespace Invocation
namespace CommandLine

/-- What the program sees of the system it runs on. -/
structure Environment where
  /-- The value of an environment variable that is set. -/
  valueOf : String → Option String
  files : String → FileEntry
  platform : String

/-- Why a command fails. -/
inductive Failure where
  | configuration (failure : Configuration.Failure)
  | fault (fault : Fault)

def Failure.message : Failure → String
  | .configuration f => f.message
  | .fault f => "Runtime error: " ++ f.message

/-- What a command line does. The output is a function of the time that the conformance cases
took, in milliseconds. -/
structure Outcome where
  code : Nat
  output : String → String
  failure : Option Failure := none

namespace Outcome

/-- Exit code 0 and an output that no time enters. -/
def written (text : String) : Outcome := { code := 0, output := fun _ => text }

/-- Exit code 1, after some output. -/
def failed (text : String) (failure : Failure) : Outcome :=
  { code := 1, output := fun _ => text, failure := some failure }

end Outcome

/-- The lines of a text. -/
def unlines (lines : List String) : String := String.join (lines.map (· ++ "\n"))

/-- Runs the selected conformance cases and reports on them; the exit code says whether one failed.
Where options are found, and which words ask for colours, is up to the system. -/
def checkWith (findOptions : Option String → Except Configuration.Failure Options)
    (colored : String → Bool) (arguments : CheckArguments) : Outcome :=
  match findOptions arguments.config with
  | .error e => .failed "" (.configuration e)
  | .ok options =>
    let options :=
      if arguments.hostInterop then { options with hostInterop := true } else options
    match Conformance.run options arguments.pattern with
    | .error e => .failed "" (.fault e)
    | .ok report =>
      { code := if report.hasFailures then 1 else 0
        output := fun time => Span.renderAll (colored arguments.color) (reportSpans report time) }

/-- Checks with the configuration files and the terminal of a system. -/
def check (env : Environment) (arguments : CheckArguments) : Outcome :=
  checkWith (Configuration.find env.files) (fun word => (ColorChoice.ofWord word).isOn env.valueOf)
    arguments

/-- Lists the options in effect and the environment. -/
def info (env : Environment) (config : Option String) : Outcome :=
  let header := infoHeader env.platform (configSource env.files config)
  match Configuration.find env.files config with
  | .error e => .failed (unlines header) (.configuration e)
  | .ok options =>
    match Session.start options with
    | .error e => .failed (unlines (header ++ [""] ++ optionLines options)) (.fault e)
    | .ok session =>
      .written (unlines (header ++ infoBody env.valueOf options session.registry.names))

/-- What a command line does. -/
def run (env : Environment) (arguments : List String) : Outcome :=
  match Request.ofArguments arguments with
  | .check arguments => check env arguments
  | .info config => info env config
  | .version => .written (programName ++ " " ++ programVersion ++ "\n")
  | .help topic => .written (Span.renderAll (colorsForced env.valueOf) topic.spans)
  | .unusable => { code := 2, output := fun _ => "" }

end CommandLine
end Invocation
