import PageTitle.Unicode.Table

/-!
# Character sets

A set of code points is the ascending list of the points where membership changes: a code point
is in the set when an odd number of bounds is at or below it. `combine` merges two sets under any
operation on membership.
-/

namespace PageTitle

/-- A set of code points, by its ascending bounds. -/
structure CharSet where
  bounds : List Nat
  deriving DecidableEq, Repr

namespace CharSet

/-- Membership by bounds: each bound at or below `n` turns it over. -/
def hasBelow (n : Nat) : List Nat → Bool
  | [] => false
  | b :: r => if n < b then false else !hasBelow n r

def contains (s : CharSet) (c : Char) : Bool := hasBelow c.toNat s.bounds

def empty : CharSet := ⟨[]⟩

/-- Every code point. -/
def all : CharSet := ⟨[0]⟩

/-- The code points from `a` to `b`, both included. -/
def range (a b : Nat) : CharSet := if a ≤ b then ⟨[a, b + 1]⟩ else empty

def single (n : Nat) : CharSet := range n n

/-- Puts a bound before others if membership turns over there. -/
def turn (b : Nat) (before after : Bool) (r : List Nat) : List Nat :=
  if before = after then r else b :: r

/-- Walks two lists of bounds upward, where `x` and `y` tell whether the last point seen is in each
set. -/
def combineFrom (op : Bool → Bool → Bool) (x y : Bool) : List Nat → List Nat → List Nat
  | [], [] => []
  | a :: as, [] => turn a (op x y) (op (!x) y) (combineFrom op (!x) y as [])
  | [], b :: bs => turn b (op x y) (op x (!y)) (combineFrom op x (!y) [] bs)
  | a :: as, b :: bs =>
    if a < b then turn a (op x y) (op (!x) y) (combineFrom op (!x) y as (b :: bs))
    else if b < a then turn b (op x y) (op x (!y)) (combineFrom op x (!y) (a :: as) bs)
    else turn a (op x y) (op (!x) (!y)) (combineFrom op (!x) (!y) as bs)
termination_by as bs => as.length + bs.length

/-- The points whose membership in two sets satisfies `op`, for an `op` that is false of two
absences. -/
def combine (op : Bool → Bool → Bool) (s t : CharSet) : CharSet :=
  ⟨combineFrom op false false s.bounds t.bounds⟩

def union : CharSet → CharSet → CharSet := combine (· || ·)
def inter : CharSet → CharSet → CharSet := combine (· && ·)
def diff : CharSet → CharSet → CharSet := combine (fun a b => a && !b)
def symmDiff : CharSet → CharSet → CharSet := combine xor

/-- All other code points. -/
def compl (s : CharSet) : CharSet :=
  match s.bounds with
  | 0 :: r => ⟨r⟩
  | r => ⟨0 :: r⟩

def unions (l : List CharSet) : CharSet := l.foldl union empty

/-- The maximal intervals of the set, the last one ending at most at `last`. -/
def intervals (last : Nat) (s : CharSet) : List (Nat × Nat) :=
  go s.bounds
where
  go : List Nat → List (Nat × Nat)
    | [] => []
    | [a] => if a ≤ last then [(a, last)] else []
    | a :: b :: r => if a ≤ last then (a, min (b - 1) last) :: go r else []

/-- The bounds of an ascending list of code points; equal neighbours count once. -/
def boundsOf : List Nat → List Nat
  | [] => []
  | n :: r =>
    match boundsOf r with
    | [] => [n, n + 1]
    | b :: bs =>
      if b = n then b :: bs else if b = n + 1 then n :: bs else n :: (n + 1) :: b :: bs

/-- The set of the listed code points, in any order. -/
def ofList (l : List Nat) : CharSet := ⟨boundsOf (l.mergeSort (· ≤ ·))⟩

/-- The set whose bounds are the rows of a table. -/
def ofTable (s : String) : CharSet := ⟨(Table.rows s).filterMap List.head?⟩

end CharSet
end PageTitle
