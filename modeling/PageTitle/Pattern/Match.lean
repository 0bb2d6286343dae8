import PageTitle.Pattern.Expr

/-!
# Matching

A set of places in a text is a number whose bits are the places, the place before the first
character being bit 0. `run` takes the places where an expression may start to those where it may
end, so all ways to match are followed at once and the time does not depend on their number.
-/

namespace PageTitle.Pattern

/-- The places before the characters that satisfy `p`. -/
def placesBefore (p : Char → Bool) : Text → Nat
  | [] => 0
  | c :: r => (p c).toNat + 2 * placesBefore p r

/-- The places whose neighbours satisfy `p`; `before` is the character before the text. -/
def placesBetween (p : Option Char → Option Char → Bool) (before : Option Char) : Text → Nat
  | [] => (p before none).toNat
  | c :: r => (p before (some c)).toNat + 2 * placesBetween p (some c) r

/-- What an atom is in one text: a step over the characters after some places, or a test of
places. -/
inductive Move where
  | pass (places : Nat)
  | stay (places : Nat)
  deriving DecidableEq, Repr

namespace Move

def run : Move → Nat → Nat
  | pass p, m => (m &&& p) <<< 1
  | stay p, m => m &&& p

/-- The move of an atom in a text. -/
def ofAtom (t : Text) : Atom → Move
  | .chars s => pass (placesBefore s.contains t)
  | .look l => stay (placesBetween l.holds none t)

end Move

/-- Applies `f` to a set of places `n` times, or until it does not change it. -/
def repeatTimes (f : Nat → Nat) : (n : Nat) → Nat → Nat
  | 0, m => m
  | n + 1, m =>
    let next := f m
    if next = m then m else repeatTimes f n next

/-- Adds what `f` makes of a set of places up to `n` times, or until nothing new comes. -/
def repeatUpTo (f : Nat → Nat) : (n : Nat) → Nat → Nat
  | 0, m => m
  | n + 1, m =>
    let next := m ||| f m
    if next = m then m else repeatUpTo f n next

namespace Expr

/-- The places where an expression may end that starts at one of the given places; `length` is the
number of characters of the text. More repetitions than that reach no new place. -/
def run (length : Nat) : Expr Move → Nat → Nat
  | empty, m => m
  | atom a, m => a.run m
  | seq a b, m => b.run length (a.run length m)
  | alt a b, m => a.run length m ||| b.run length m
  | repeated e min max, m =>
    repeatUpTo (e.run length) ((max.map (· - min)).getD (length + 1))
      (repeatTimes (e.run length) min m)
  | group e, m => e.run length m

/-- Whether an expression matches somewhere in a text. -/
def found (e : Expr Atom) (t : Text) : Bool :=
  (e.map (Move.ofAtom t)).run t.length (Nat.pow 2 (t.length + 1) - 1) ≠ 0

end Expr
end PageTitle.Pattern
