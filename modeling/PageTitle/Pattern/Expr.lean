import PageTitle.Unicode.CharSet
import PageTitle.Unicode.Query

/-!
# Regular expressions

What a pattern says: characters of sets in a row, choices, repetitions, and places that depend on
the characters around them. `Expr` is over any kind of atoms, so that those of a pattern can be
replaced by what they are in one text.
-/

namespace PageTitle.Pattern

/-- A condition on a place between two characters. -/
inductive Look where
  | start | stop
  | lineStart | lineStop
  | crlfStart | crlfStop
  | wordBoundary | noWordBoundary
  | wordStart | wordStop
  | wordStartHalf | wordStopHalf
  | asciiBoundary | noAsciiBoundary
  | asciiStart | asciiStop
  | asciiStartHalf | asciiStopHalf
  deriving DecidableEq, Repr

/-- The ASCII characters that words are made of. -/
def asciiWord (c : Char) : Bool := c.isAlphanum || c = '_'

namespace Look

def wordAt (word : Char → Bool) : Option Char → Bool
  | some c => word c
  | none => false

/-- Whether the condition holds between two neighbours, absent at the ends of a text. -/
def holds (l : Look) (before after : Option Char) : Bool :=
  let word := wordAt UnicodeQuery.wordChars.contains
  let ascii := wordAt asciiWord
  match l with
  | start => before.isNone
  | stop => after.isNone
  | lineStart => before.isNone || before = some '\n'
  | lineStop => after.isNone || after = some '\n'
  | crlfStart => before.isNone || before = some '\n' || (before = some '\r' && after ≠ some '\n')
  | crlfStop => after.isNone || after = some '\r' || (after = some '\n' && before ≠ some '\r')
  | wordBoundary => word before != word after
  | noWordBoundary => word before == word after
  | wordStart => !word before && word after
  | wordStop => word before && !word after
  | wordStartHalf => !word before
  | wordStopHalf => !word after
  | asciiBoundary => ascii before != ascii after
  | noAsciiBoundary => ascii before == ascii after
  | asciiStart => !ascii before && ascii after
  | asciiStop => ascii before && !ascii after
  | asciiStartHalf => !ascii before
  | asciiStopHalf => !ascii after

end Look

/-- What a pattern is made of: one character of a set, or a place. -/
inductive Atom where
  | chars (s : CharSet)
  | look (l : Look)
  deriving DecidableEq, Repr

/-- A regular expression. A group is an expression whose match the pattern keeps. -/
inductive Expr (α : Type) where
  | empty
  | atom (a : α)
  | seq (a b : Expr α)
  | alt (a b : Expr α)
  | repeated (e : Expr α) (min : Nat) (max : Option Nat)
  | group (e : Expr α)
  deriving DecidableEq, Repr

namespace Expr

/-- The expression with its atoms replaced. -/
def map {α β : Type} (f : α → β) : Expr α → Expr β
  | empty => empty
  | atom a => atom (f a)
  | seq a b => seq (a.map f) (b.map f)
  | alt a b => alt (a.map f) (b.map f)
  | repeated e min max => repeated (e.map f) min max
  | group e => group (e.map f)

/-- Expressions in a row. -/
def row {α : Type} : List (Expr α) → Expr α
  | [] => empty
  | [e] => e
  | e :: r => seq e (row r)

/-- A choice of expressions. -/
def choice {α : Type} : List (Expr α) → Expr α
  | [] => empty
  | [e] => e
  | e :: r => alt e (choice r)

/-- Whether an expression can match no character, whatever the text. -/
def still : Expr Atom → Bool
  | empty => true
  | atom (.look _) => true
  | atom (.chars _) => false
  | seq a b => a.still && b.still
  | alt a b => a.still && b.still
  | repeated e _ max => e.still || max = some 0
  | group e => e.still

/-- A repetition in its plainest form: what matches no character need not be repeated more than
once, and once is no repetition. -/
def times (e : Expr Atom) (min : Nat) (max : Option Nat) : Expr Atom :=
  let (min, max) := if e.still then (Nat.min min 1, some (Nat.min (max.getD 1) 1)) else (min, max)
  if min = 0 && max = some 0 then empty
  else if min = 1 && max = some 1 then e
  else repeated e min max

end Expr
end PageTitle.Pattern
