import PageTitle.Pattern.Escape

/-!
# Sets in brackets

A set in brackets is the union of its items: characters, ranges, sets with names and sets in
brackets again. Such unions may be intersected, subtracted and compared; the operators are read
from the left.
-/

namespace PageTitle.Pattern

/-- The operators between unions. -/
inductive SetOp where
  | inter | diff | symmDiff
  deriving DecidableEq, Repr

namespace SetOp

def apply : SetOp → CharSet → CharSet → CharSet
  | inter => CharSet.inter
  | diff => CharSet.diff
  | symmDiff => CharSet.symmDiff

end SetOp

/-- A set and how deep the brackets in it are nested. -/
structure Nested where
  set : CharSet
  depth : Nat

/-- The items of a union read so far: their number, their union and the depth of the deepest. -/
structure Union where
  count : Nat := 0
  set : CharSet := CharSet.empty
  depth : Nat := 0

namespace Union

def add (u : Union) (n : Nested) : Union :=
  ⟨u.count + 1, u.set.union n.set, max u.depth n.depth⟩

/-- The union as a set. A union of several items is a level of its own. -/
def nested (u : Union) : Nested := ⟨u.set, if u.count ≤ 1 then u.depth else u.depth + 1⟩

end Union

/-- A bracket that is open: whether its complement is meant, the operand to the left of the
operator that is being read, and the union that is being read. -/
structure Bracket where
  negated : Bool
  left : Option (SetOp × Nested) := none
  items : Union := {}

namespace Bracket

/-- The value of all operands read so far. -/
def value (m : Mode) (b : Bracket) : Nested :=
  let right := b.items.nested
  match b.left with
  | none => right
  | some (op, left) =>
    ⟨op.apply (m.fold left.set) (m.fold right.set), 1 + max left.depth right.depth⟩

/-- The bracket after an operator. -/
def operate (m : Mode) (b : Bracket) (op : SetOp) : Bracket :=
  { b with left := some (op, b.value m), items := {} }

/-- The set of a bracket that is closed. -/
def close? (m : Mode) (b : Bracket) : Option Nested :=
  let v := b.value m
  (m.finish? b.negated v.set).map (⟨·, v.depth + 1⟩)

end Bracket

/-- Opens a bracket: hyphens at the start and, without them, a closing bracket are items. -/
def openBracket (m : Mode) (t : Text) : Option (Bracket × Text) :=
  let (negated, t) := match m.skip t with
    | '^' :: r => (true, m.skip r)
    | t => (false, t)
  let (hyphens, t) := m.takeAll (· = '-') t
  let single (c : Char) : Nested := ⟨.single c.toNat, 0⟩
  let items := hyphens.foldl (fun u c => u.add (single c)) ({} : Union)
  match t with
  | [] => none
  | c :: r =>
    if hyphens.isEmpty && c = ']' then
      some ({ negated, items := items.add (single c) }, m.skip r)
    else some ({ negated, items }, c :: r)

/-- The set of a name between colons, after the bracket that opens it; nothing where there is no
such name. -/
def namedSet? (t : Text) : Option (CharSet × Bool × Text) :=
  match t with
  | ':' :: r =>
    let (negated, r) := match r with
      | '^' :: r' => (true, r')
      | _ => (false, r)
    match Text.cut? (· = ':') r with
    | some (name, ']' :: rest) => (asciiSet? (String.ofList name)).map (·, negated, rest)
    | _ => none
  | _ => none

/-- A character or an escape in a bracket. -/
def readItem (m : Mode) (c : Char) (r : Text) : Option (Item × Text) :=
  if c = '\\' then readEscape m r else some (.char c false, r)

/-- The code point of a character in a bracket; only ASCII without Unicode. -/
def pointOf? (m : Mode) : Item → Option Nat
  | .char c _ => if m.unicode || c.toNat < 0x80 then some c.toNat else none
  | _ => none

/-- The set of one item of a bracket. -/
def itemSet? (m : Mode) : Item → Option CharSet
  | .set s => some s
  | i => (pointOf? m i).map CharSet.single

/-- Reads an item or a range of a bracket. A hyphen before the end or another hyphen is none of a
range. -/
def readRange (m : Mode) (c : Char) (r : Text) : Option (CharSet × Text) := do
  let (first, rest) ← readItem m c r
  match m.skip rest with
  | [] => none
  | '-' :: after =>
    if m.peek after = some ']' || m.peek after = some '-' then
      some (← itemSet? m first, '-' :: after)
    else
      match m.skip after with
      | [] => none
      | d :: r' =>
        let (last, rest) ← readItem m d r'
        let a ← pointOf? m first
        let b ← pointOf? m last
        if a ≤ b then some (.range a b, rest) else none
  | rest => some (← itemSet? m first, rest)

/-- What a step within brackets leads to. -/
inductive BracketStep where
  | goOn (outer : List Bracket) (current : Bracket)
  | done (set : Nested)

/-- Closes the current bracket. -/
def closeBracket (m : Mode) (outer : List Bracket) (current : Bracket) : Option BracketStep := do
  let n ← current.close? m
  match outer with
  | [] => some (.done n)
  | b :: outer => some (.goOn outer { b with items := b.items.add n })

/-- Reads one part of a bracket, of which `c` is the first character. -/
def bracketStep (m : Mode) (outer : List Bracket) (current : Bracket) (c : Char) (r : Text) :
    Option (BracketStep × Text) :=
  let add (s : CharSet) (rest : Text) : Option (BracketStep × Text) :=
    some (.goOn outer { current with items := current.items.add ⟨s, 0⟩ }, rest)
  let operate (op : SetOp) (rest : Text) : Option (BracketStep × Text) :=
    some (.goOn outer (current.operate m op), rest)
  match c, r with
  | '[', r =>
    match namedSet? r with
    | some (s, negated, rest) => (m.finish? negated s).bind (add · rest)
    | none => (openBracket m r).map fun (b, rest) => (.goOn (current :: outer) b, rest)
  | ']', r => (closeBracket m outer current).map (·, r)
  | '&', '&' :: r => operate .inter r
  | '-', '-' :: r => operate .diff r
  | '~', '~' :: r => operate .symmDiff r
  | c, r => (readRange m c r).bind fun (s, rest) => add s rest

/-- Reads brackets to the end of the outermost one. -/
def readBracketFrom (m : Mode) (outer : List Bracket) (current : Bracket) (t : Text) :
    Option (Nested × Text) :=
  match m.skip t with
  | [] => none
  | c :: r =>
    match bracketStep m outer current c r with
    | none => none
    | some (.done n, rest) => some (n, rest)
    | some (.goOn outer current, rest) =>
      if rest.length < t.length then readBracketFrom m outer current rest else none
termination_by t.length

/-- Reads a set in brackets after the bracket that opens it. -/
def readBracket (m : Mode) (t : Text) : Option (Nested × Text) :=
  (openBracket m t).bind fun (b, rest) => readBracketFrom m [] b rest

end PageTitle.Pattern
