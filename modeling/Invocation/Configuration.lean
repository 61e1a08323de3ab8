/-
# Configurations

Options come from a TOML text whose only table is `engine`. Every option may be
left out, and nothing else may stand there. The table may also be written as an
array of the options in their order, of which the later ones may be left out. A
configuration may stand in a file, and the file `callinfo.toml` is used where it
exists and none is named.

Key definitions: `Options.ofToml?`, `Configuration.load`,
`Configuration.discover`.
-/
import Invocation.Options
import Invocation.Toml.Grammar

namespace Invocation

/-! ### From TOML -/

namespace Toml.Node

/-- A length or a limit: an integer that is not negative. -/
def nat? : Node → Option Nat
  | .integer n => if 0 ≤ n then some n.toNat else none
  | _ => none

def bool? : Node → Option Bool
  | .boolean b => some b
  | _ => none

/-- Whether a node is a table or an array without anything in it. -/
def isEmpty : Node → Bool
  | .table _ es => es.isEmpty
  | .list items => items.isEmpty
  | _ => false

/-- A word from a list of choices: the word itself, or a table that holds nothing but an empty
table or array under it. -/
def choice? : Node → Option String
  | .string s => some s
  | .table _ [(name, node)] => if node.isEmpty then some name else none
  | _ => none

def implicitReceiver? (n : Node) : Option ImplicitReceiver :=
  n.choice?.bind ImplicitReceiver.ofKeyword?

end Toml.Node

namespace Options

/-- The options in their order: the name of each, and how its node changes the options. -/
def settings : List (String × (Toml.Node → Options → Option Options)) :=
  [ ("max_prototype_depth", fun n o => n.nat?.map fun k => { o with maxPrototypeDepth := k }),
    ("max_call_depth", fun n o => n.nat?.map fun k => { o with maxCallDepth := k }),
    ("lazy_string_min_length", fun n o => n.nat?.map fun k => { o with lazyStringMinLength := k }),
    ("implicit_receiver",
      fun n o => n.implicitReceiver?.map fun r => { o with implicitReceiver := r }),
    ("host_interop", fun n o => n.bool?.map fun b => { o with hostInterop := b }) ]

/-- Applies named settings; a name that is no option is refused. -/
def ofEntries : Toml.Entries → Options → Option Options
  | [], o => some o
  | (name, node) :: es, o =>
    match settings.lookup name with
    | some apply => (apply node o).bind (ofEntries es)
    | none => none

/-- Applies settings by position; what stands beyond the last option is passed over. -/
def ofItems : List (String × (Toml.Node → Options → Option Options)) → List Toml.Node → Options →
    Option Options
  | [], _, o => some o
  | _, [], o => some o
  | (_, apply) :: rest, node :: nodes, o => (apply node o).bind (ofItems rest nodes)

/-- The options of an `engine` node. -/
def ofEngine? : Toml.Node → Option Options
  | .table _ es => ofEntries es {}
  | .list items => ofItems settings items {}
  | _ => none

/-- The options of a whole configuration. -/
def ofTable? : Toml.Entries → Option Options
  | [] => some {}
  | [("engine", node)] => ofEngine? node
  | _ => none

/-- The options of a TOML text, unless it is malformed or says something else. -/
def ofToml? (text : String) : Option Options := (Toml.parse text).bind ofTable?

end Options

/-! ### From files -/

/-- What is found at a path. -/
inductive FileEntry where
  | missing
  /-- Something that cannot be read as a file. -/
  | unreadable
  | file (bytes : ByteArray)

namespace Configuration

/-- The file that is used when none is named. -/
def defaultFile : String := "callinfo.toml"

/-- Why a configuration could not be loaded. -/
inductive Failure where
  | notFound (path : String)
  | unreadable
  | malformed
deriving DecidableEq

def Failure.message : Failure → String
  | .notFound path => "Config file not found: " ++ path
  | .unreadable => "Config file cannot be read"
  | .malformed => "Config error"

/-- The options of the bytes of a file, which have to be UTF-8. -/
def ofBytes (bytes : ByteArray) : Except Failure Options :=
  match String.fromUTF8? bytes with
  | none => .error .unreadable
  | some text =>
    match Options.ofToml? text with
    | some o => .ok o
    | none => .error .malformed

/-- The options of the file at a path, which has to be there. -/
def load (files : String → FileEntry) (path : String) : Except Failure Options :=
  match files path with
  | .missing => .error (.notFound path)
  | .unreadable => .error .unreadable
  | .file bytes => ofBytes bytes

/-- Whether the default file is there. -/
def hasDefault (files : String → FileEntry) : Bool :=
  match files defaultFile with
  | .missing => false
  | _ => true

/-- The options of the default file, or the default options if it is not there. -/
def discover (files : String → FileEntry) : Except Failure Options :=
  if hasDefault files then load files defaultFile else .ok {}

/-- The options of the named file or, where none is named, of the default one. -/
def find (files : String → FileEntry) : Option String → Except Failure Options
  | some path => load files path
  | none => discover files

end Configuration
end Invocation
