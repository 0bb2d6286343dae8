import PageTitle.Pattern.Bracket

/-!
# Reading patterns

A pattern is read in one walk from left to right. The groups that are open stand on a stack, each
with the branches and pieces that came before the next one.
-/

namespace PageTitle.Pattern

/-- A part of a pattern: what it says, how deep it is nested, and whether it only sets flags. -/
structure Piece where
  expr : Expr Atom
  depth : Nat := 0
  directive : Bool := false

namespace Piece

/-- The depth around parts; parts in number are a level of their own. -/
def depthOf (l : List Piece) : Nat :=
  match l with
  | [] => 0
  | [p] => p.depth
  | l => 1 + (l.map Piece.depth).foldl max 0

/-- Parts in a row. -/
def row (l : List Piece) : Piece := ⟨Expr.row (l.map Piece.expr), depthOf l, false⟩

/-- A choice of parts. -/
def choice (l : List Piece) : Piece := ⟨Expr.choice (l.map Piece.expr), depthOf l, false⟩

end Piece

/-- What was read of a group: its finished branches and the pieces of the last one, the latest
first. -/
structure Body where
  branches : List Piece := []
  pieces : List Piece := []

namespace Body

def add (b : Body) (p : Piece) : Body := { b with pieces := p :: b.pieces }

/-- The branch that is being read. -/
def branch (b : Body) : Piece := Piece.row b.pieces.reverse

/-- Ends a branch. -/
def bar (b : Body) : Body := ⟨b.branch :: b.branches, []⟩

def whole (b : Body) : Piece := Piece.choice (b.branch :: b.branches).reverse

end Body

/-- A group that is open: what stands before it, the mode to go back to, and whether its match is
kept. -/
structure Group where
  before : Body
  mode : Mode
  kept : Bool

structure State where
  mode : Mode := {}
  names : List Text := []
  body : Body := {}
  outer : List Group := []

namespace State

def add (s : State) (p : Piece) : State := { s with body := s.body.add p }

/-- Opens a group. -/
def push (s : State) (mode : Mode) (kept : Bool) : State :=
  { s with mode, body := {}, outer := ⟨s.body, s.mode, kept⟩ :: s.outer }

/-- Closes the innermost group. -/
def pop? (s : State) : Option State :=
  match s.outer with
  | [] => none
  | g :: outer =>
    let p := s.body.whole
    let e := if g.kept then Expr.group p.expr else p.expr
    some { s with mode := g.mode, body := g.before.add ⟨e, p.depth + 1, false⟩, outer }

/-- Repeats the last piece. -/
def repeatLast? (s : State) (min : Nat) (max : Option Nat) : Option State :=
  match s.body.pieces with
  | [] => none
  | p :: rest =>
    if p.directive then none
    else some { s with
      body := { s.body with pieces := ⟨p.expr.times min max, p.depth + 1, false⟩ :: rest } }

end State

def isNameStart (c : Char) : Bool := c = '_' || UnicodeQuery.alphabetic.contains c

def isNameChar (c : Char) : Bool :=
  isNameStart c || c = '.' || c = '[' || c = ']' || UnicodeQuery.numbers.contains c

/-- Opens a group with a name, which no other group has. -/
def openNamed (s : State) (t : Text) : Option (State × Text) :=
  match Text.cut? (· = '>') t with
  | some (c :: name, rest) =>
    if isNameStart c && name.all isNameChar && !s.names.contains (c :: name) then
      some ({ s with names := (c :: name) :: s.names }.push s.mode true, rest)
    else none
  | _ => none

/-- Reads what follows a parenthesis that opens. There is no looking ahead or back. -/
def openGroup (s : State) (t : Text) : Option (State × Text) :=
  match s.mode.skip t with
  | '?' :: '=' :: _ | '?' :: '!' :: _ | '?' :: '<' :: '=' :: _ | '?' :: '<' :: '!' :: _ => none
  | '?' :: 'P' :: '<' :: r => openNamed s r
  | '?' :: '<' :: r => openNamed s r
  | '?' :: r =>
    match readFlags [] r with
    | none => none
    | some (flags, mark, rest) =>
      let mode := s.mode.apply true flags
      if mark = ':' then some (s.push mode false, rest)
      else if flags.isEmpty then none
      else some ({ s with mode }.add { expr := .empty, directive := true }, rest)
  | rest => some (s.push s.mode true, rest)

/-- The largest number of repetitions. -/
def maxCount : Nat := 4294967295

/-- Reads a number of repetitions. -/
def readCount (m : Mode) (t : Text) : Option Nat × Text :=
  let (digits, rest) := m.takeAll (Text.isDigit 10) (t.dropWhile Text.isBlank)
  ((Text.number? 10 digits).filter (· ≤ maxCount), (m.takeAll Text.isBlank rest).2)

/-- Reads the numbers of a repetition in braces and what follows it: the least and the greatest
one. -/
def readCounts (m : Mode) (t : Text) : Option (Nat × Option Nat × Text) := do
  let (first, rest) := readCount m (m.skip t)
  let min ← first
  match rest with
  | ',' :: r =>
    match m.skip r with
    | '\x7d' :: rest => some (min, none, rest)
    | r =>
      let (second, rest) := readCount m r
      let max ← second
      match rest with
      | '\x7d' :: rest => if min ≤ max then some (min, some max, rest) else none
      | _ => none
  | '\x7d' :: rest => some (min, some min, rest)
  | _ => none

/-- A text without the question mark that makes a repetition lazy. -/
def dropLazy (t : Text) : Text :=
  match t with
  | '?' :: r => r
  | _ => t

/-- The piece of an item outside brackets. -/
def itemPiece? (m : Mode) : Item → Option Piece
  | .look l => some { expr := .atom (.look l) }
  | .set s => some { expr := .atom (.chars s) }
  | .char c byte =>
    if !m.unicode && 0x80 ≤ c.toNat then
      if byte then none else some { expr := .atom (.chars (.single c.toNat)) }
    else some { expr := .atom (.chars (m.fold (.single c.toNat))) }

/-- The characters that a dot stands for. -/
def dot? (m : Mode) : Option CharSet :=
  if !m.unicode then none
  else if m.dotAll then some .all
  else if m.crlf then some (CharSet.unions [.single 10, .single 13]).compl
  else some (CharSet.single 10).compl

/-- Reads one part of a pattern, of which `c` is the first character. -/
def step (s : State) (c : Char) (r : Text) : Option (State × Text) :=
  let add (p : Piece) (rest : Text) : Option (State × Text) := some (s.add p, rest)
  let look (l : Look) : Option (State × Text) := add { expr := .atom (.look l) } r
  match c with
  | '(' => openGroup s r
  | ')' => s.pop?.map (·, r)
  | '|' => some ({ s with body := s.body.bar }, r)
  | '[' => (readBracket s.mode r).bind fun (n, rest) => add ⟨.atom (.chars n.set), n.depth, false⟩ rest
  | '?' => (s.repeatLast? 0 (some 1)).map (·, dropLazy r)
  | '*' => (s.repeatLast? 0 none).map (·, dropLazy r)
  | '+' => (s.repeatLast? 1 none).map (·, dropLazy r)
  | '\x7b' => do
    let (min, max, rest) ← readCounts s.mode r
    some (← s.repeatLast? min max, dropLazy (s.mode.skip rest))
  | '.' => (dot? s.mode).bind fun d => add { expr := .atom (.chars d) } r
  | '^' =>
    look (if s.mode.multiLine then (if s.mode.crlf then .crlfStart else .lineStart) else .start)
  | '$' =>
    look (if s.mode.multiLine then (if s.mode.crlf then .crlfStop else .lineStop) else .stop)
  | '\\' => do
    let (i, rest) ← readEscape s.mode r
    add (← itemPiece? s.mode i) rest
  | c => (itemPiece? s.mode (.char c false)).bind (add · r)

/-- Reads a pattern to its end. -/
def readFrom (s : State) (t : Text) : Option State :=
  match s.mode.skip t with
  | [] => some s
  | c :: r =>
    match step s c r with
    | none => none
    | some (s', rest) => if rest.length < t.length then readFrom s' rest else none
termination_by t.length

/-- How deep a pattern may be nested. -/
def maxDepth : Nat := 250

/-- What a pattern says, if it is well formed. -/
def read? (t : Text) : Option (Expr Atom) :=
  (readFrom {} t).bind fun s =>
    let whole := s.body.whole
    if s.outer.isEmpty && whole.depth ≤ maxDepth then some whole.expr else none

end PageTitle.Pattern
