/-
# Styled text

Output is a list of spans, each plain or in a style. Where colours are on, a
styled span is set to its style by terminal escapes (bold first, then underlined,
then the foreground, then the background) and reset after it; one that does not
know what stands before it is reset before it too. Where colours are off, a span
is its text alone.

Key definitions: `Style`, `Span`, `Span.render`, `ColorChoice.isOn`,
`colorsForced`.
-/
namespace Invocation
namespace CommandLine

inductive Color where
  | red
  | green
  | yellow
  | white
deriving DecidableEq

/-- The digit that stands for a colour in a terminal escape. -/
def Color.digit : Color → String
  | .red => "1"
  | .green => "2"
  | .yellow => "3"
  | .white => "7"

structure Style where
  foreground : Option Color := none
  background : Option Color := none
  bold : Bool := false
  underlined : Bool := false
deriving DecidableEq

/-- A terminal escape. -/
def terminalEscape (code : String) : String := "\x1b[" ++ code ++ "m"

/-- The escapes that set a style. -/
def Style.escapes (s : Style) : String :=
  (if s.bold then terminalEscape "1" else "") ++
    (if s.underlined then terminalEscape "4" else "") ++
    (s.foreground.elim "" fun c => terminalEscape ("3" ++ c.digit)) ++
    (s.background.elim "" fun c => terminalEscape ("4" ++ c.digit))

/-- A piece of output. -/
inductive Span where
  | plain (text : String)
  /-- A text in a style, after anything. -/
  | styled (style : Style) (text : String)
  /-- A text in a style, within plain text. -/
  | marked (style : Style) (text : String)
deriving DecidableEq

namespace Span

def newline : Span := .plain "\n"

/-- Text in a colour. -/
def colored (color : Color) (text : String) : Span := .styled { foreground := some color } text

/-- Bold text in a colour. -/
def strong (color : Color) (text : String) : Span :=
  .styled { foreground := some color, bold := true } text

def bold (text : String) : Span := .styled { bold := true } text

def dim (text : String) : Span := colored .white text

/-- The text without its style. -/
def text : Span → String
  | .plain s => s
  | .styled _ s => s
  | .marked _ s => s

def render (colors : Bool) : Span → String
  | .plain s => s
  | .styled style s =>
    if colors then terminalEscape "0" ++ style.escapes ++ s ++ terminalEscape "0" else s
  | .marked style s => if colors then style.escapes ++ s ++ terminalEscape "0" else s

/-- The text of a whole output. -/
def renderAll (colors : Bool) (spans : List Span) : String :=
  String.join (spans.map (render colors))

end Span

/-- When to use colours. -/
inductive ColorChoice where
  | always
  | never
  /-- Unless the terminal is known to have none. -/
  | auto
deriving DecidableEq

namespace ColorChoice

/-- The choice that a word names; a word that is no choice counts as `auto`. -/
def ofWord (word : String) : ColorChoice :=
  if word = "always" then .always else if word = "never" then .never else .auto

/-- Whether colours are used, given the values of environment variables: `NO_COLOR` turns them off,
whatever its value. -/
def isOn (valueOf : String → Option String) (choice : ColorChoice) : Bool :=
  if (valueOf "NO_COLOR").isSome then false
  else
    match choice with
    | .always => true
    | .never => false
    | .auto =>
      match valueOf "TERM" with
      | some terminal => terminal != "dumb"
      | none => false

end ColorChoice

/-- Whether a text that leaves no choice of colours is coloured, given the values of environment
variables: `CLICOLOR_FORCE` turns colours on unless `NO_COLOR` turns them off. A variable that is
empty counts as not set. -/
def colorsForced (valueOf : String → Option String) : Bool :=
  let isGiven (name : String) : Bool := (valueOf name).any (!·.isEmpty)
  isGiven "CLICOLOR_FORCE" && !isGiven "NO_COLOR"

end CommandLine
end Invocation
