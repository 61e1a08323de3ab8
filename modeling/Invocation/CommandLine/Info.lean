/-
# The listing of options and environment

The output of the command `info`: version, platform, where the configuration
comes from, the options in effect, the loaded adapters, and the environment
variables that matter.

Key definitions: `infoHeader`, `infoBody`.
-/
import Invocation.Configuration
import Invocation.Session

namespace Invocation
namespace CommandLine

def programName : String := "callinfo"

def programVersion : String := "0.1.0"

/-- The file that the configuration comes from. -/
def configSource (files : String → FileEntry) (config : Option String) : String :=
  match config with
  | some path => path
  | none => if Configuration.hasDefault files then Configuration.defaultFile else "(defaults)"

/-- The lines that are written before the configuration is read. -/
def infoHeader (platform source : String) : List String :=
  [ programName ++ " v" ++ programVersion, "", "Platform:     " ++ platform,
    "Config:       " ++ source ]

def optionLines (o : Options) : List String :=
  [ "Engine:",
    "  max_prototype_depth    = " ++ toString o.maxPrototypeDepth,
    "  max_call_depth         = " ++ toString o.maxCallDepth,
    "  lazy_string_min_length = " ++ toString o.lazyStringMinLength,
    "  implicit_receiver      = " ++ o.implicitReceiver.label,
    "  host_interop           = " ++ toString o.hostInterop ]

def variableLine (valueOf : String → Option String) (name : String) : String :=
  "  " ++ name ++ " = " ++ (valueOf name).getD "(default)"

/-- The environment variable that sets what is logged. -/
def logVariable : String := "CALLINFO_LOG"

def infoBody (valueOf : String → Option String) (o : Options) (adapters : List String) :
    List String :=
  [""] ++ optionLines o ++ ["", "Adapters:"] ++ adapters.map ("  " ++ ·) ++
    ["", "Environment:", variableLine valueOf logVariable, variableLine valueOf "NO_COLOR"]

end CommandLine
end Invocation
