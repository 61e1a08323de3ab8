/-
# Parsers

A parser reads something off the front of a list of characters and gives it with
the characters that are left, or refuses. Parsers are put together from smaller
ones; `many` reads at most as often as there are characters, so every parser ends.

Key definitions: `Parser`, `Parser.many`, `Parser.separatedBy`.
-/
namespace Invocation

/-- Reads an `α` off the front of a text and leaves the rest, or refuses. -/
def Parser (α : Type) : Type := List Char → Option (α × List Char)

namespace Parser

variable {α β : Type}

/-- Reads nothing. -/
def give (a : α) : Parser α := fun cs => some (a, cs)

/-- Reads what `f` says after what `p` read. -/
def andThen (p : Parser α) (f : α → Parser β) : Parser β := fun cs =>
  match p cs with
  | some (a, rest) => f a rest
  | none => none

instance : Monad Parser where
  pure := give
  bind := andThen

def refuse : Parser α := fun _ => none

/-- Reads with `p`, or with `q` where `p` refuses. -/
def orElse (p q : Parser α) : Parser α := fun cs =>
  match p cs with
  | some r => some r
  | none => q cs

/-- The first of several parsers that does not refuse. -/
def firstOf : List (Parser α) → Parser α
  | [] => refuse
  | p :: ps => p.orElse (firstOf ps)

/-- What an `Option` holds, without reading anything. -/
def ofOption : Option α → Parser α
  | some a => give a
  | none => refuse

/-- Reads with `p` if it does not refuse. -/
def optional (p : Parser α) : Parser (Option α) := fun cs =>
  match p cs with
  | some (a, rest) => some (some a, rest)
  | none => some (none, cs)

/-- One character that has a property. -/
def satisfy (has : Char → Bool) : Parser Char
  | [] => none
  | c :: cs => if has c then some (c, cs) else none

def char (c : Char) : Parser Char := satisfy (· == c)

/-- The characters of a word. -/
def word (w : String) : Parser Unit := fun cs =>
  if w.toList.isPrefixOf cs then some ((), cs.drop w.toList.length) else none

/-- The longest run of characters that have a property, which may be empty. -/
def takeWhile (has : Char → Bool) : Parser (List Char) := fun cs =>
  some (cs.takeWhile has, cs.dropWhile has)

/-- A run of at least one character that have a property. -/
def takeWhile1 (has : Char → Bool) : Parser (List Char) := do
  let c ← satisfy has
  let cs ← takeWhile has
  pure (c :: cs)

/-- Exactly `n` characters that have a property. -/
def exactly (has : Char → Bool) : Nat → Parser (List Char)
  | 0 => pure []
  | n + 1 => do
    let c ← satisfy has
    let cs ← exactly has n
    pure (c :: cs)

/-- The end of the text. -/
def atEnd : Parser Unit
  | [] => some ((), [])
  | _ :: _ => none

/-- Reads with `p` until it refuses, at most once for each element of `limit`. What was read before
comes in `before`, the latest first. -/
def manyWithin (p : Parser α) : (limit : List Char) → (before : List α) → Parser (List α)
  | [], before, cs => some (before.reverse, cs)
  | _ :: limit, before, cs =>
    match p cs with
    | some (a, rest) => manyWithin p limit (a :: before) rest
    | none => some (before.reverse, cs)

/-- Reads with `p`, which uses characters up, again and again until it refuses. There are not more
readings than characters. -/
def many (p : Parser α) : Parser (List α) := fun cs => manyWithin p cs [] cs

/-- One or more of `p` with the character `sep` between them. -/
def separatedBy (p : Parser α) (sep : Char) : Parser (List α) := do
  let a ← p
  let as ← many (do let _ ← char sep; p)
  pure (a :: as)

end Parser
end Invocation
