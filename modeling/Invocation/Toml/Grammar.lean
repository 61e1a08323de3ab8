/-
# Reading TOML

The grammar of TOML 1.0: lines of assignments, headers and comments, with bare
and quoted keys, four kinds of string, integers in four bases, floats, dates and
times, arrays and inline tables. Keys have fewer than `nestingLimit` parts, and
arrays and inline tables nest less deep than that.

Key definitions: `Toml.value`, `Toml.line`, `Toml.parse`.
-/
import Invocation.ArrayIndex
import Invocation.Text.Parser
import Invocation.Toml.Table

namespace Invocation
namespace Toml

open Invocation.Parser

/-- A bound on the parts of a key and on the nesting of values. -/
def nestingLimit : Nat := 80

/-! ### Blanks, comments and line ends -/

def isBlank (c : Char) : Bool := c == ' ' || c == '\t'

/-- A tab, or a character that is no control character. -/
def isTextChar (c : Char) : Bool := c == '\t' || (0x20 ≤ c.toNat && c.toNat != 0x7f)

def blanks : Parser (List Char) := takeWhile isBlank

def newline : Parser Unit := (word "\n").orElse (word "\r\n")

def comment : Parser Unit := do
  let _ ← char '#'
  let _ ← takeWhile isTextChar
  pure ()

/-- A line end, which the end of the text is too. -/
def lineEnd : Parser Unit := newline.orElse atEnd

/-- What may follow on the line of an assignment or a header. -/
def restOfLine : Parser Unit := do
  let _ ← blanks
  let _ ← optional comment
  lineEnd

/-- Blanks, comments and line ends between the items of an array. -/
def gap : Parser Unit := do
  let _ ← many (firstOf [
    do let _ ← takeWhile1 isBlank; pure (),
    do comment; newline,
    newline])
  pure ()

/-! ### Strings -/

def isHexDigit (c : Char) : Bool :=
  c.isDigit || (decide ('a' ≤ c) && decide (c ≤ 'f')) || (decide ('A' ≤ c) && decide (c ≤ 'F'))

/-- The value of a digit in any base up to sixteen. -/
def hexDigitValue (c : Char) : Nat :=
  if c.isDigit then c.toNat - '0'.toNat
  else if decide ('a' ≤ c) then c.toNat - 'a'.toNat + 10
  else c.toNat - 'A'.toNat + 10

/-- The number that digits write in a base. -/
def baseValue (base : Nat) (cs : List Char) : Nat :=
  cs.foldl (fun n c => base * n + hexDigitValue c) 0

/-- A character by its code point, in exactly `n` hexadecimal digits. -/
def codePoint (n : Nat) : Parser Char := do
  let ds ← exactly isHexDigit n
  let code := baseValue 16 ds
  if h : code.isValidChar then pure (Char.ofNatAux code h) else refuse

/-- What follows a backslash. -/
def escape : Parser Char := do
  match ← satisfy fun _ => true with
  | 'b' => pure '\x08'
  | 't' => pure '\t'
  | 'n' => pure '\n'
  | 'f' => pure '\x0c'
  | 'r' => pure '\r'
  | '"' => pure '"'
  | '\\' => pure '\\'
  | 'u' => codePoint 4
  | 'U' => codePoint 8
  | _ => refuse

/-- A run of characters that stand for themselves in a basic string. -/
def basicRun : Parser (List Char) :=
  takeWhile1 fun c => isTextChar c && c != '"' && c != '\\'

def escaped : Parser (List Char) := do
  let _ ← char '\\'
  let c ← escape
  pure [c]

def basicString : Parser String := do
  let _ ← char '"'
  let parts ← many (basicRun.orElse escaped)
  let _ ← char '"'
  pure (String.ofList parts.flatten)

def literalString : Parser String := do
  let _ ← char '\''
  let cs ← takeWhile fun c => isTextChar c && c != '\''
  let _ ← char '\''
  pure (String.ofList cs)

/-- A line end inside a string. -/
def innerNewline : Parser (List Char) := do
  newline
  pure ['\n']

/-- A backslash at the end of a line, which hides all blanks and line ends that follow. -/
def continuation : Parser (List Char) := do
  let _ ← char '\\'
  let _ ← blanks
  newline
  let _ ← many ((do let _ ← takeWhile1 isBlank; pure ()).orElse newline)
  pure []

/-- One or two quotes inside a string that three quotes end. -/
def innerQuotes (quote : Char) : Parser (List Char) := do
  let qs ← takeWhile1 (· == quote)
  if qs.length ≤ 2 then pure qs else refuse

/-- The three quotes that end a string, and up to two more before them that belong to it. -/
def closingQuotes (quote : Char) : Parser (List Char) := fun cs =>
  let n := min 5 (cs.takeWhile (· == quote)).length
  if 3 ≤ n then some (List.replicate (n - 3) quote, cs.drop n) else none

/-- A string between three quotes, made of `parts`. A line end right after the opening is
left out. -/
def longString (quote : Char) (parts : List (Parser (List Char))) : Parser String := do
  word (String.ofList [quote, quote, quote])
  let _ ← optional newline
  let body ← many (firstOf (parts ++ [innerNewline, innerQuotes quote]))
  let last ← closingQuotes quote
  pure (String.ofList (body.flatten ++ last))

def longBasicString : Parser String := longString '"' [basicRun, continuation, escaped]

def longLiteralString : Parser String :=
  longString '\'' [takeWhile1 fun c => isTextChar c && c != '\'']

def anyString : Parser String :=
  firstOf [longBasicString, basicString, longLiteralString, literalString]

/-! ### Numbers -/

/-- A digit, or an underscore and a digit. -/
def nextDigit (isDigit : Char → Bool) : Parser Char := do
  let _ ← optional (char '_')
  satisfy isDigit

/-- Digits with single underscores between them. -/
def digitRun (isDigit : Char → Bool) : Parser (List Char) := do
  let d ← satisfy isDigit
  let ds ← many (nextDigit isDigit)
  pure (d :: ds)

def sign : Parser (Option Char) := optional (satisfy fun c => c == '+' || c == '-')

/-- Decimal digits that do not begin with a zero, or a zero alone. -/
def decimalDigits : Parser (List Char) :=
  (do
    let d ← satisfy fun c => c.isDigit && c != '0'
    let ds ← many (nextDigit Char.isDigit)
    pure (d :: ds) : Parser (List Char)).orElse (exactly Char.isDigit 1)

/-- Whether a number fits into 64 bits with sign. -/
def fitsInteger (n : Int) : Bool :=
  decide (-0x8000000000000000 ≤ n ∧ n < 0x8000000000000000)

def decimalInteger : Parser Int := do
  let s ← sign
  let ds ← decimalDigits
  let n : Int := digitsValue 0 ds
  pure (if s == some '-' then -n else n)

/-- An integer whose base is named by two characters. -/
def basedInteger (mark : String) (base : Nat) (isDigit : Char → Bool) : Parser Int := do
  word mark
  let ds ← digitRun isDigit
  pure (baseValue base ds)

def integer : Parser Node := do
  let n ← firstOf [
    basedInteger "0x" 16 isHexDigit,
    basedInteger "0o" 8 fun c => decide ('0' ≤ c) && decide (c ≤ '7'),
    basedInteger "0b" 2 fun c => c == '0' || c == '1',
    decimalInteger]
  if fitsInteger n then pure (.integer n) else refuse

def fractionPart : Parser (List Char) := do
  let _ ← char '.'
  digitRun Char.isDigit

def exponentPart : Parser Int := do
  let _ ← satisfy fun c => c == 'e' || c == 'E'
  let s ← sign
  let ds ← digitRun Char.isDigit
  let n : Int := digitsValue 0 ds
  pure (if s == some '-' then -n else n)

/-- Whether digits times a power of ten round to more than the greatest binary64 number, that is,
whether they reach the middle between it and the next power of two. -/
def isTooLarge (digits : List Char) (exponent : Int) : Bool :=
  let size := (digits.dropWhile (· == '0')).length
  if size = 0 ∨ size + exponent ≤ 308 then false
  else if 310 ≤ size + exponent then true
  else decide ((1 <<< 1024 - 1 <<< 970) * Nat.pow 10 (-exponent).toNat
    ≤ digitsValue 0 digits * Nat.pow 10 exponent.toNat)

/-- Digits with a fraction, an exponent or both, which are not too large unless negative. -/
def decimalFloat : Parser Node := do
  let s ← sign
  let ds ← decimalDigits
  let (fraction, exponent) ←
    (do let e ← exponentPart; pure ([], e) : Parser (List Char × Int)).orElse
    (do let f ← fractionPart; let e ← optional exponentPart; pure (f, e.getD 0))
  if s != some '-' && isTooLarge (ds ++ fraction) (exponent - fraction.length) then refuse
  else pure .float

/-- A float: a decimal one, or one of the special words. -/
def float : Parser Node :=
  decimalFloat.orElse (do
    let _ ← sign
    (word "inf").orElse (word "nan")
    pure .float)

/-! ### Dates and times -/

/-- A number of exactly `n` decimal digits. -/
def digitsNumber (n : Nat) : Parser Nat := do
  let ds ← exactly Char.isDigit n
  pure (digitsValue 0 ds)

/-- A number of two digits between two bounds. -/
def twoDigits (low high : Nat) : Parser Nat := do
  let n ← digitsNumber 2
  if low ≤ n ∧ n ≤ high then pure n else refuse

def isLeapYear (year : Nat) : Bool :=
  year % 4 == 0 && (year % 100 != 0 || year % 400 == 0)

def daysInMonth (year month : Nat) : Nat :=
  if month = 2 then (if isLeapYear year then 29 else 28)
  else if month = 4 ∨ month = 6 ∨ month = 9 ∨ month = 11 then 30
  else 31

def date : Parser Unit := do
  let year ← digitsNumber 4
  let _ ← char '-'
  let month ← twoDigits 1 12
  let _ ← char '-'
  let _ ← twoDigits 1 (daysInMonth year month)
  pure ()

def time : Parser Unit := do
  let _ ← twoDigits 0 23
  let _ ← char ':'
  let _ ← twoDigits 0 59
  let _ ← char ':'
  let _ ← twoDigits 0 60
  let _ ← optional (do let _ ← char '.'; takeWhile1 Char.isDigit)
  pure ()

/-- The distance from universal time. -/
def offset : Parser Unit :=
  (do let _ ← satisfy fun c => c == 'Z' || c == 'z'; pure () : Parser Unit).orElse
  (do
    let _ ← satisfy fun c => c == '+' || c == '-'
    let _ ← twoDigits 0 23
    let _ ← char ':'
    let _ ← twoDigits 0 59
    pure ())

/-- A date, a time, or both with or without an offset. -/
def dateTime : Parser Node :=
  (do
    date
    let _ ← optional (do
      let _ ← satisfy fun c => c == 'T' || c == 't' || c == ' '
      time
      optional offset)
    pure Node.dateTime : Parser Node).orElse
  (do time; pure Node.dateTime)

/-! ### Keys and values -/

def isBareKeyChar (c : Char) : Bool := c.isAlphanum || c == '_' || c == '-'

def simpleKey : Parser String :=
  firstOf [basicString, literalString,
    do let cs ← takeWhile1 isBareKeyChar; pure (String.ofList cs)]

/-- A key of parts with dots between them, blanks around each part. -/
def key : Parser Key := do
  let parts ← separatedBy (do
    let _ ← blanks
    let k ← simpleKey
    let _ ← blanks
    pure k) '.'
  if parts.length < nestingLimit then
    match parts.getLast? with
    | some name => pure { path := parts.dropLast, name }
    | none => refuse
  else refuse

def boolean : Parser Node :=
  (do word "true"; pure (Node.boolean true) : Parser Node).orElse
  (do word "false"; pure (Node.boolean false))

/-- A value that holds no other values. -/
def scalar : Parser Node :=
  firstOf [do let s ← anyString; pure (.string s), dateTime, float, integer, boolean]

/-- An array of `item`s, a comma after the last one allowed. -/
def array (item : Parser Node) : Parser Node := do
  let _ ← char '['
  let items ← optional (do
    let items ← separatedBy (do gap; let v ← item; gap; pure v) ','
    let _ ← optional (char ',')
    pure items)
  gap
  let _ ← char ']'
  pure (.list (items.getD []))

/-- A key, an equals sign and a value. -/
def assignment (item : Parser Node) : Parser (Key × Node) := do
  let k ← key
  let _ ← char '='
  let _ ← blanks
  let v ← item
  pure (k, v)

/-- The table of assignments that are made one after the other. -/
def collect (assignments : List (Key × Node)) : Option Entries :=
  assignments.foldlM (fun es a => es.set a.1.name a.2 a.1.path) []

/-- A table in braces, on one line. -/
def inlineTable (item : Parser Node) : Parser Node := do
  let _ ← char '\x7b'
  let items ← optional (separatedBy (do
    let a ← assignment item
    let _ ← blanks
    pure a) ',')
  let _ ← blanks
  let _ ← char '\x7d'
  let es ← ofOption (collect (items.getD []))
  pure (.table .inline es)

/-- A value in which arrays and tables nest at most `depth` deep. -/
def value : (depth : Nat) → Parser Node
  | 0 => scalar
  | depth + 1 => firstOf [array (value depth), inlineTable (value depth), scalar]

/-! ### Lines and documents -/

/-- The key of a header, between its brackets. -/
def headerKey (opening closing : String) : Parser Key := do
  word opening
  let k ← key
  word closing
  restOfLine
  pure k

/-- One line, without the blanks before it. -/
def line : Parser Line :=
  firstOf [
    do comment; lineEnd; pure .blank,
    do newline; pure .blank,
    do let k ← headerKey "[[" "]]"; pure (.nextHeader k),
    do let k ← headerKey "[" "]"; pure (.header k),
    do
      let (k, v) ← assignment (value (nestingLimit - 1))
      restOfLine
      pure (.assign k v)]

/-- All lines up to the end of the text. -/
def document : Parser (List Line) := do
  let _ ← optional (char '\ufeff')
  let _ ← blanks
  let lines ← many (do let l ← line; let _ ← blanks; pure l)
  atEnd
  pure lines

/-- The table that a TOML text describes, unless it is malformed. -/
def parse (text : String) : Option Entries :=
  match document text.toList with
  | some (lines, _) => assemble lines [] []
  | none => none

end Toml
end Invocation
