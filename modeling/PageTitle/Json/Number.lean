import PageTitle.Text.Digits

/-!
# Numbers of data formats

A number is an integer of 64 bits, with or without a sign, or else a real number in floating
point. Reals are kept as decimal fractions; those without a fractional part are rounded to what
floating point can hold.
-/

namespace PageTitle

/-- An integer, or the fraction of a numerator and a power of ten. -/
inductive Number where
  | integer (n : Int)
  | real (numerator : Int) (places : Nat)
  deriving DecidableEq, Repr

namespace Number

/-- The integers that are kept as such. -/
def leastInteger : Int := -9223372036854775808
def greatestInteger : Int := 18446744073709551615

/-- The bits of a significand. -/
def precision : Nat := 53

/-- A number rounded to the precision of floating point; of two equally near ones the even one is
taken. -/
def round (n : Nat) : Nat :=
  let unit := Nat.pow 2 (n.log2 + 1 - precision)
  let low := n / unit
  let rest := n % unit
  if rest * 2 > unit || (rest * 2 = unit && low % 2 = 1) then (low + 1) * unit else low * unit

/-- The least number that is too large for floating point. -/
def limit : Nat := Nat.pow 2 1024

/-- The digits of a significand that are read, as a number, and how many more there are before the
point: digits that do not fit in 64 bits count for their places only. -/
def significand (n : Nat) : List Nat → Nat × Nat
  | [] => (n, 0)
  | d :: r => if n * 10 + d ≤ greatestInteger.toNat then significand (n * 10 + d) r else (n, r.length + 1)

/-- The number that digits stand for of which `fraction` stand after the point, times a power of
ten; nothing if it is too large. -/
def ofDigits? (negative : Bool) (whole fraction : List Nat) (exponent : Int) : Option Number :=
  let (high, dropped) := significand 0 whole
  let (n, kept) :=
    if dropped = 0 then
      let (n, rest) := significand high fraction
      (n, fraction.length - rest)
    else (high, 0)
  let power := exponent + dropped - kept
  let signed (m : Nat) : Int := if negative then -(m : Int) else m
  if n = 0 then some (real 0 0)
  else if power ≥ 0 then
    if power > 308 then none
    else
      let m := round (round n * round (Nat.pow 10 power.toNat))
      if m < limit then some (real (signed m) 0) else none
  else if power < -400 then some (real 0 0)
  else some (real (signed n) (-power).toNat)

end Number
end PageTitle
