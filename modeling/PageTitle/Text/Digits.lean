import PageTitle.Text.Basic

/-!
# Digits

Reading and writing natural numbers in a base up to sixteen.
-/

namespace PageTitle.Text

/-- The value of a digit in a base; digits above nine are letters of either case. -/
def digit? (base : Nat) (c : Char) : Option Nat :=
  let n := c.toNat
  let v :=
    if 48 ≤ n && n ≤ 57 then n - 48
    else if 97 ≤ n && n ≤ 102 then n - 87
    else if 65 ≤ n && n ≤ 70 then n - 55
    else 16
  if v < base then some v else none

def isDigit (base : Nat) (c : Char) : Bool := (digit? base c).isSome

/-- The number that digits, the most significant first, stand for. -/
def ofDigits (base : Nat) (ds : List Nat) : Nat := ds.foldl (fun n d => n * base + d) 0

/-- The number that a text of digits stands for; there must be one at least. -/
def number? (base : Nat) (t : Text) : Option Nat :=
  if t.isEmpty then none else (t.mapM (digit? base)).map (ofDigits base)

def decimal (n : Nat) : Text := Nat.toDigits 10 n

/-- A number in lower case hexadecimal digits. -/
def hexadecimal (n : Nat) : Text := Nat.toDigits 16 n

/-- The character of a digit below sixteen, in upper case. -/
def upperHexDigit (n : Nat) : Char := Char.ofNat (if n < 10 then 48 + n else 55 + n)

def isAsciiLetter (c : Char) : Bool :=
  (97 ≤ c.toNat && c.toNat ≤ 122) || (65 ≤ c.toNat && c.toNat ≤ 90)

/-- The lower case of an ASCII letter; other characters stay. -/
def lowerAscii (c : Char) : Char :=
  if 65 ≤ c.toNat && c.toNat ≤ 90 then Char.ofNat (c.toNat + 32) else c

end PageTitle.Text
