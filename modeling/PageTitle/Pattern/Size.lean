import PageTitle.Pattern.Expr

/-!
# Sizes of patterns

A pattern is compiled to an automaton that reads UTF-8, and one that takes too much space is
refused. A state takes 32 bytes, a target of a choice 4 and a transition of a state with several
ones 8. Repetitions by number are copies, so a short pattern may be a large automaton.
-/

namespace PageTitle.Pattern

/-- A range of values at each byte of a character. -/
abbrev ByteRanges := List (Nat × Nat)

/-- The ways to write the code points from `a` to `b` in bytes, of which the last `k` hold six bits
each and the first one all others, with `lead` added. -/
def byteRanges (lead : Nat) : (k : Nat) → (a b : Nat) → List ByteRanges
  | 0, a, b => [[(lead + a, lead + b)]]
  | k + 1, a, b =>
    let high := a / 64
    let top := b / 64
    let low := a % 64
    let last := b % 64
    if high = top then (byteRanges lead k high high).map (· ++ [(low, last)])
    else
      let first := if low = 0 then [] else (byteRanges lead k high high).map (· ++ [(low, 63)])
      let final := if last = 63 then [] else (byteRanges lead k top top).map (· ++ [(0, last)])
      let from_ := if low = 0 then high else high + 1
      let to_ := if last = 63 then top else top - 1
      let middle :=
        if from_ ≤ to_ then (byteRanges lead k from_ to_).map (· ++ [(0, 63)]) else []
      first ++ middle ++ final

/-- The part of an interval within bounds. -/
def clip (lo hi : Nat) (i : Nat × Nat) : Option (Nat × Nat) :=
  if max i.1 lo ≤ min i.2 hi then some (max i.1 lo, min i.2 hi) else none

/-- The code points that are written alike: the least and the greatest, the number of bytes after
the first and the value that the first one starts at. -/
def forms : List (Nat × Nat × Nat × Nat) :=
  [(0, 0x7F, 0, 0), (0x80, 0x7FF, 1, 0xC0), (0x800, 0xD7FF, 2, 0xE0), (0xE000, 0xFFFF, 2, 0xE0),
   (0x10000, 0x10FFFF, 3, 0xF0)]

/-- The ways to write the characters of an interval. -/
def intervalRanges (i : Nat × Nat) : List ByteRanges :=
  forms.flatMap fun (lo, hi, k, lead) =>
    match clip lo hi i with
    | some (a, b) => byteRanges lead k a b
    | none => []

/-- The number of entries at which two lists start alike. -/
def sharedLength : ByteRanges → ByteRanges → Nat
  | a :: r, b :: s => if a = b then sharedLength r s + 1 else 0
  | _, _ => 0

/-- The number of entries of lists that share equal starts with the list before. -/
def nodeCount (before : ByteRanges) : List ByteRanges → Nat
  | [] => 0
  | r :: rest => (r.length - sharedLength before r) + nodeCount r rest

def stateSize : Nat := 32

/-- The size of the automaton of a set. -/
def setSize (s : CharSet) : Nat :=
  match s.intervals 0x10FFFF with
  | [] => stateSize
  | l =>
    if l.all (·.2 < 0x80) then
      if l.all (fun i => i.1 = i.2) && l.length = 1 then stateSize
      else 2 * stateSize + 8 * l.length
    else
      let ranges := l.flatMap intervalRanges
      let nodes := nodeCount [] ranges
      if ranges.length = 1 && ranges.all (·.all fun i => i.1 = i.2) then stateSize * nodes
      else stateSize * (nodes + 2) + 4 * ranges.length

namespace Expr

/-- The size of the automaton of an expression. -/
def size : Expr Atom → Nat
  | empty => stateSize
  | atom (.chars s) => setSize s
  | atom (.look _) => stateSize
  | seq a b => a.size + b.size
  | alt a b => 2 * stateSize + 8 + a.size + b.size
  | repeated e min none => (max min 1) * e.size + stateSize + 8
  | repeated e min (some max) =>
    min * e.size + (if min < max then stateSize + (max - min) * (stateSize + 8 + e.size) else 0)
  | group e => e.size + 2 * stateSize

/-- The largest automaton, in bytes. -/
def maxSize : Nat := 10485760

/-- The size of what every automaton holds: a loop over the text before the match, the marks of its
ends, and the state that accepts. -/
def frameSize : Nat := 168

def fits (e : Expr Atom) : Bool := e.size + frameSize ≤ maxSize

end Expr
end PageTitle.Pattern
