/-
# Quoted text

A text in double quotes, with a backslash escape for everything that a reader
could not copy from the page: the quote, the backslash, the common controls by
a letter, and unprintable or extending characters by their code point in
hexadecimal.

Key definitions: `escapeChar`, `quoted`.
Key theorems: `quoted_eq`.
-/
import Invocation.Text.Extending
import Invocation.Text.Unprintable

namespace Invocation

/-- A code point in lower case hexadecimal between braces. -/
def hexEscape (c : Char) : List Char :=
  '\\' :: 'u' :: '\x7b' :: Nat.toDigits 16 c.toNat ++ ['\x7d']

/-- Whether a character is one of ASCII that stands for itself. -/
def isPlain (c : Char) : Bool :=
  decide (0x20 ≤ c.toNat) && decide (c.toNat < 0x7f) && c != '"' && c != '\\'

/-- How a character is written between double quotes. -/
def escapeChar (c : Char) : List Char :=
  if isPlain c then [c]
  else if c = '\x00' then ['\\', '0']
  else if c = '\t' then ['\\', 't']
  else if c = '\r' then ['\\', 'r']
  else if c = '\n' then ['\\', 'n']
  else if c = '\\' then ['\\', '\\']
  else if c = '"' then ['\\', '"']
  else if isExtending c || isUnprintable c then hexEscape c
  else [c]

/-- The text between double quotes; one that has nothing to escape is taken as a whole. -/
def quoted (s : String) : String :=
  let chars := s.toList
  "\"" ++ (if chars.all isPlain then s else String.ofList (chars.flatMap escapeChar)) ++ "\""

theorem flatMap_escapeChar : ∀ chars : List Char, chars.all isPlain →
    chars.flatMap escapeChar = chars
  | [], _ => rfl
  | c :: cs, h => by
    simp only [List.all_cons, Bool.and_eq_true] at h
    simp [escapeChar, h.1, flatMap_escapeChar cs h.2]

/-- Quoting escapes every character. -/
theorem quoted_eq (s : String) :
    quoted s = "\"" ++ String.ofList (s.toList.flatMap escapeChar) ++ "\"" := by
  by_cases h : s.toList.all isPlain
  · simp only [quoted, h, ↓reduceIte, flatMap_escapeChar _ h, String.ofList_toList]
  · simp [quoted, h]

end Invocation
