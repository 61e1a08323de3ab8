/-
# Command line arguments

What the arguments of a command line ask for. Arguments are read from left to
right. The options of the program come before the name of a command, the options
of the command after it; `--verbose` may stand in both places. An option with a
value takes it from the same argument or from the next one, which must not look
like an option. `--help` and `--version` end the reading; so does the first
argument that fits nowhere, which makes the whole line unusable.

Key definitions: `Request`, `Request.ofArguments`.
-/
namespace Invocation
namespace CommandLine

/-- The arguments of a conformance run. -/
structure CheckArguments where
  pattern : Option String := none
  config : Option String := none
  hostInterop : Bool := false
  color : String := "auto"
deriving DecidableEq

/-- The texts of help. -/
inductive HelpTopic where
  | program
  | check
  | info
  | help
deriving DecidableEq

/-- What a command line asks for. -/
inductive Request where
  | check (arguments : CheckArguments)
  | info (config : Option String)
  | version
  | help (topic : HelpTopic)
  /-- A line that cannot be used. -/
  | unusable
deriving DecidableEq

/-! ### Options

A reader of options knows which flags and which options with a value there are,
and keeps what it has seen. -/

inductive Flag where
  | verbose
  | hostInterop
  | help
  | version
deriving DecidableEq

inductive Setting where
  | config
  | color
deriving DecidableEq

/-- A flag or an option that takes a value. -/
inductive Switch where
  | flag (f : Flag)
  | setting (s : Setting)
deriving DecidableEq

/-- Where an argument stands: before the command or after one. -/
inductive Level where
  | program
  | check
  | info
deriving DecidableEq

/-- The option with a long name. -/
def Level.long? : Level → String → Option Switch
  | _, "verbose" => some (.flag .verbose)
  | _, "help" => some (.flag .help)
  | .program, "version" => some (.flag .version)
  | .check, "host-interop" => some (.flag .hostInterop)
  | .check, "color" => some (.setting .color)
  | .check, "config" => some (.setting .config)
  | .info, "config" => some (.setting .config)
  | _, _ => none

/-- The option with a letter. -/
def Level.short? : Level → Char → Option Switch
  | _, 'v' => some (.flag .verbose)
  | _, 'h' => some (.flag .help)
  | .program, 'V' => some (.flag .version)
  | .check, 'c' => some (.setting .config)
  | .info, 'c' => some (.setting .config)
  | _, _ => none

def Level.topic : Level → HelpTopic
  | .program => .program
  | .check => .check
  | .info => .info

/-- What has been read at one level. -/
structure Seen where
  flags : List Flag := []
  pattern : Option String := none
  config : Option String := none
  color : Option String := none

/-- How the reading goes on after an option. -/
inductive Step where
  | next (seen : Seen)
  /-- The value of an option is still to come. -/
  | wants (setting : Setting) (seen : Seen)
  | stop (request : Request)

/-- Notes a flag; each may stand once. -/
def Seen.flag (s : Seen) (level : Level) : Flag → Step
  | .help => .stop (.help level.topic)
  | .version => .stop .version
  | f => if s.flags.contains f then .stop .unusable else .next { s with flags := f :: s.flags }

/-- Notes the value of an option; each may stand once, and a file has to have a name. -/
def Seen.setting (s : Seen) (value : String) : Setting → Step
  | .config =>
    if s.config.isSome || value.isEmpty then .stop .unusable
    else .next { s with config := some value }
  | .color => if s.color.isSome then .stop .unusable else .next { s with color := some value }

/-- Reads letters after a single dash. The value of an option is the rest of the letters, less an
equals sign in front. -/
def readLetters (level : Level) : List Char → Seen → Step
  | [], seen => .next seen
  | c :: cs, seen =>
    match level.short? c with
    | none => .stop .unusable
    | some (.flag f) =>
      match seen.flag level f with
      | .next seen' => readLetters level cs seen'
      | other => other
    | some (.setting s) =>
      match cs with
      | [] => .wants s seen
      | '=' :: value => seen.setting (String.ofList value) s
      | value => seen.setting (String.ofList value) s

/-- Reads a name after two dashes, with its value if there is an equals sign. -/
def readLong (level : Level) (cs : List Char) (seen : Seen) : Step :=
  let name := String.ofList (cs.takeWhile (· != '='))
  let value := cs.dropWhile (· != '=')
  match level.long? name, value with
  | some (.flag f), [] => seen.flag level f
  | some (.setting s), [] => .wants s seen
  | some (.setting s), _ :: value => seen.setting (String.ofList value) s
  | _, _ => .stop .unusable

/-- The kinds of argument. -/
inductive Token where
  /-- Two dashes alone: what follows are no options. -/
  | separator
  | long (cs : List Char)
  | letters (cs : List Char)
  | plain (text : String)
deriving DecidableEq

def Token.ofArgument (argument : String) : Token :=
  match argument.toList with
  | ['-', '-'] => .separator
  | '-' :: '-' :: cs => .long cs
  | '-' :: c :: cs => .letters (c :: cs)
  | _ => .plain argument

/-! ### Whole lines -/

/-- What the arguments after the name of a command ask for. -/
def Seen.request (s : Seen) : Level → Request
  | .check => .check
      { pattern := s.pattern, config := s.config, hostInterop := s.flags.contains .hostInterop
        color := s.color.getD "auto" }
  | .info => .info s.config
  | .program => .unusable

/-- Takes an argument that is no option: only a conformance run has one, its pattern. -/
def Seen.positional (s : Seen) (level : Level) (text : String) : Step :=
  if level = .check ∧ s.pattern = none then .next { s with pattern := some text }
  else .stop .unusable

/-- Reads arguments of which none is an option any more. -/
def readPositionals (level : Level) : List String → Seen → Request
  | [], seen => seen.request level
  | a :: as, seen =>
    match seen.positional level a with
    | .next seen' => readPositionals level as seen'
    | _ => .unusable

/-- Reads the arguments of a command; `wanted` is the option whose value is due. -/
def readCommand (level : Level) : Option Setting → List String → Seen → Request
  | none, [], seen => seen.request level
  | some _, [], _ => .unusable
  | wanted, a :: as, seen =>
    let go : Step → Request
      | .next seen' => readCommand level none as seen'
      | .wants s seen' => readCommand level (some s) as seen'
      | .stop request => request
    match Token.ofArgument a, wanted with
    | .plain text, none => go (seen.positional level text)
    | .plain text, some s => go (seen.setting text s)
    | .separator, none => readPositionals level as seen
    | .long cs, none => go (readLong level cs seen)
    | .letters cs, none => go (readLetters level cs seen)
    | _, some _ => .unusable

/-- The help that the arguments of the help command ask for. -/
def readHelp : List String → Request
  | [] => .help .program
  | ["check"] => .help .check
  | ["info"] => .help .info
  | ["help"] => .help .help
  | _ => .unusable

/-- Reads the arguments before the name of a command, and the command. -/
def readProgram : List String → Seen → Request
  | [], _ => .unusable
  | a :: as, seen =>
    let go : Step → Request
      | .next seen' => readProgram as seen'
      | .wants _ _ => .unusable
      | .stop request => request
    match Token.ofArgument a with
    | .plain "check" => readCommand .check none as {}
    | .plain "info" => readCommand .info none as {}
    | .plain "help" => readHelp as
    | .long cs => go (readLong .program cs seen)
    | .letters cs => go (readLetters .program cs seen)
    | _ => .unusable

/-- What a command line asks for. -/
def Request.ofArguments (arguments : List String) : Request := readProgram arguments {}

end CommandLine
end Invocation
