/-
# Help

The texts that explain the command line. Headings are bold and underlined, and
what is to be typed as it stands is bold.

Key definitions: `HelpTopic.spans`.
-/
import Invocation.CommandLine.Arguments
import Invocation.CommandLine.Style

namespace Invocation
namespace CommandLine

/-- What can be typed, and what it means. -/
structure HelpEntry where
  marks : List Span
  meaning : String

private def heading (text : String) : Span := .marked { bold := true, underlined := true } text

private def literal (text : String) : Span := .marked { bold := true } text

/-- How wide the first column is for an entry. -/
def HelpEntry.width (e : HelpEntry) : Nat := (String.join (e.marks.map Span.text)).length

/-- A section: its heading, and its entries in two columns. -/
private def helpSection (title : String) (entries : List HelpEntry) : List Span :=
  let widest := (entries.map HelpEntry.width).foldl max 0
  .newline :: heading title :: .newline :: entries.flatMap fun e =>
    let gap := String.ofList (List.replicate (widest - e.width + 2) ' ')
    .plain "  " :: e.marks ++ [.plain (gap ++ e.meaning), .newline]

/-- The first lines of a help text: the purpose and the form of a command. -/
private def synopsis (purpose command operands : String) : List Span :=
  [.plain purpose, .newline, .newline, heading "Usage:", .plain " ", literal command,
    .plain (" " ++ operands), .newline]

private def subcommand (name meaning : String) : HelpEntry := ⟨[literal name], meaning⟩

private def operand (name meaning : String) : HelpEntry := ⟨[.plain name], meaning⟩

/-- An option that has a short form. -/
private def shortOption (short long value meaning : String) : HelpEntry :=
  ⟨[literal short, .plain ", ", literal long, .plain value], meaning⟩

/-- An option without a short form. -/
private def longOption (long value meaning : String) : HelpEntry :=
  ⟨[.plain "    ", literal long, .plain value], meaning⟩

private def configOption : HelpEntry :=
  shortOption "-c" "--config" " <CONFIG>" "Config file (defaults to ./callinfo.toml when present)"

private def verboseOption : HelpEntry :=
  shortOption "-v" "--verbose" "" "Enable debug logging (overrides CALLINFO_LOG)"

private def helpOption : HelpEntry := shortOption "-h" "--help" "" "Print help"

private def helpPurpose : String := "Print this message or the help of the given subcommand(s)"

private def checkPurpose : String := "Run conformance scenarios"

private def infoPurpose : String := "Show version, effective options and environment"

/-- The help on a topic. -/
def HelpTopic.spans : HelpTopic → List Span
  | .program =>
    synopsis "Native invocation-context conformance runner" "callinfo" "[OPTIONS] <COMMAND>" ++
      helpSection "Commands:"
        [subcommand "check" checkPurpose, subcommand "info" infoPurpose,
          subcommand "help" helpPurpose] ++
      helpSection "Options:"
        [verboseOption, helpOption, shortOption "-V" "--version" "" "Print version"]
  | .check =>
    synopsis checkPurpose "callinfo check" "[OPTIONS] [PATTERN]" ++
      helpSection "Arguments:" [operand "[PATTERN]" "Case name pattern to match"] ++
      helpSection "Options:"
        [configOption, verboseOption, longOption "--host-interop" "" "Enable foreign host values",
          longOption "--color" " <COLOR>"
            "Color output: auto, always, never [default: auto]",
          helpOption]
  | .info =>
    synopsis infoPurpose "callinfo info" "[OPTIONS]" ++
      helpSection "Options:" [configOption, verboseOption, helpOption]
  | .help =>
    synopsis helpPurpose "callinfo help" "[COMMAND]..." ++
      helpSection "Arguments:" [operand "[COMMAND]..." "Print help for the subcommand(s)"]

end CommandLine
end Invocation
