import PageTitle.Pattern.Expr
import PageTitle.Text.Digits
import PageTitle.Unicode.CaseFolding

/-!
# Modes of a pattern

Flags such as `(?i)` change how the rest of a group is read. Where spaces count for nothing, a
pattern may hold comments too.
-/

namespace PageTitle.Pattern

inductive Flag where
  | ignoreCase | multiLine | dotAll | swapGreed | unicode | crlf | spaced
  deriving DecidableEq, Repr

namespace Flag

def ofChar? : Char → Option Flag
  | 'i' => some ignoreCase
  | 'm' => some multiLine
  | 's' => some dotAll
  | 'U' => some swapGreed
  | 'u' => some unicode
  | 'R' => some crlf
  | 'x' => some spaced
  | _ => none

end Flag

/-- The flags that a pattern is read under. Greed makes no difference to whether a pattern
matches, so its flag is not kept. -/
structure Mode where
  ignoreCase : Bool := false
  multiLine : Bool := false
  dotAll : Bool := false
  unicode : Bool := true
  crlf : Bool := false
  spaced : Bool := false
  deriving DecidableEq, Repr

namespace Mode

def set (m : Mode) (value : Bool) : Flag → Mode
  | .ignoreCase => { m with ignoreCase := value }
  | .multiLine => { m with multiLine := value }
  | .dotAll => { m with dotAll := value }
  | .swapGreed => m
  | .unicode => { m with unicode := value }
  | .crlf => { m with crlf := value }
  | .spaced => { m with spaced := value }

/-- The mode after a list of flags, where the absent item is the minus sign: flags after it are
taken back. -/
def apply (m : Mode) (value : Bool) : List (Option Flag) → Mode
  | [] => m
  | none :: r => m.apply false r
  | some f :: r => (m.set value f).apply value r

/-- The set with the other case of its characters, where case makes no difference. -/
def fold (m : Mode) (s : CharSet) : CharSet :=
  if m.ignoreCase then (if m.unicode then s.foldCase else s.foldCaseAscii) else s

/-- A set, folded, or its complement. Only Unicode knows what is not in a set. -/
def finish? (m : Mode) (negated : Bool) (s : CharSet) : Option CharSet :=
  if negated then (if m.unicode then some (m.fold s).compl else none) else some (m.fold s)

/-- A text without the blanks and comments that it starts with; `comment` tells whether it starts
in a comment. -/
def skipFrom (comment : Bool) : Text → Text
  | [] => []
  | c :: r =>
    if comment then skipFrom (c ≠ '\n') r
    else if Text.isBlank c then skipFrom false r
    else if c = '#' then skipFrom true r
    else c :: r

/-- A text without the blanks and comments that it starts with, where they count for nothing. -/
def skip (m : Mode) (t : Text) : Text := if m.spaced then skipFrom false t else t

/-- The first character of a text that counts, with at most one mark of a comment passed over. -/
def peek (m : Mode) (t : Text) : Option Char :=
  if m.spaced then
    match t.dropWhile Text.isBlank with
    | '#' :: r => (r.dropWhile Text.isBlank).head?
    | r => r.head?
  else t.head?

/-- At most `n` characters that satisfy `p`, and what follows them, with what counts for nothing
after each left out. -/
def take (m : Mode) (p : Char → Bool) : (n : Nat) → Text → Text × Text
  | 0, t => ([], t)
  | _ + 1, [] => ([], [])
  | n + 1, c :: r =>
    if p c then
      let (taken, rest) := m.take p n (m.skip r)
      (c :: taken, rest)
    else ([], c :: r)

/-- As many characters as satisfy `p`, and what follows them. -/
def takeAll (m : Mode) (p : Char → Bool) (t : Text) : Text × Text := m.take p t.length t

end Mode

/-- Reads flags up to the colon or parenthesis that ends them: the flags, that mark, and what
follows it. No item stands twice, and a minus sign is not the last one. -/
def readFlags (seen : List (Option Flag)) : Text → Option (List (Option Flag) × Char × Text)
  | [] => none
  | c :: r =>
    if c = ':' || c = ')' then
      if seen.head? = some none then none else some (seen.reverse, c, r)
    else
      match if c = '-' then some none else (Flag.ofChar? c).map some with
      | none => none
      | some item => if seen.contains item then none else readFlags (item :: seen) r

end PageTitle.Pattern
