import PageTitle.Text.Digits
import PageTitle.Text.Split

/-!
# Internet addresses

The addresses that stand for a host in place of a name. Version 4 addresses are written in one to
four numbers of base 8, 10 or 16, the last one filling what the others leave; version 6 addresses
in eight groups, where two colons stand for a run of zeros and the last two groups may be a
version 4 address.
-/

namespace PageTitle

namespace IPv4

/-- The value of a part of an address, with the mark of its base before it. -/
def part? (t : Text) : Option Nat :=
  match t with
  | '0' :: 'x' :: r | '0' :: 'X' :: r => if r.isEmpty then some 0 else Text.number? 16 r
  | '0' :: d :: r => Text.number? 8 (d :: r)
  | _ => Text.number? 10 t

/-- The parts between dots, a last empty one left out. -/
def parts (t : Text) : List Text :=
  let l := Text.split '.' t
  if l.getLast? = some [] && l.length ≠ 1 then l.dropLast else l

/-- Whether a host name can only be a version 4 address. -/
def endsInNumber (t : Text) : Bool :=
  match (parts t).getLast? with
  | none => false
  | some last => (!last.isEmpty && last.all (Text.isDigit 10)) || (part? last).isSome

/-- The number of an address, of which the first parts are its high bytes. -/
def combine? (numbers : List Nat) : Option Nat :=
  let high := numbers.dropLast
  match numbers.getLast? with
  | none => none
  | some last =>
    if high.length ≤ 3 && high.all (· < 256) && last < Nat.pow 256 (4 - high.length) then
      some (Text.ofDigits 256 high * Nat.pow 256 (4 - high.length) + last)
    else none

/-- Reads an address. -/
def parse? (t : Text) : Option Nat := ((parts t).mapM part?).bind combine?

/-- An address in four decimal numbers. -/
def toText (n : Nat) : Text :=
  Text.joinWith ['.']
    ([n / 16777216 % 256, n / 65536 % 256, n / 256 % 256, n % 256].map Text.decimal)

end IPv4

namespace IPv6

/-- The value of a group of up to four digits. -/
def group? (t : Text) : Option Nat := if t.length ≤ 4 then Text.number? 16 t else none

/-- A decimal number below 256 without a leading zero. -/
def octet? (t : Text) : Option Nat :=
  if t.head? = some '0' && t.length ≠ 1 then none
  else if t.length ≤ 3 then (Text.number? 10 t).filter (· < 256) else none

/-- The two groups that a version 4 address fills. -/
def embedded? (t : Text) : Option (List Nat) :=
  match (Text.split '.' t).mapM octet? with
  | some [a, b, c, d] => some [256 * a + b, 256 * c + d]
  | _ => none

/-- Groups between colons. -/
def groups? (t : Text) : Option (List Nat) :=
  if t.isEmpty then some [] else (Text.split ':' t).mapM group?

/-- Groups between colons, of which the last may be a version 4 address. -/
def lastGroups? (t : Text) : Option (List Nat) :=
  if t.isEmpty then some []
  else
    let l := Text.split ':' t
    match l.getLast? with
    | none => none
    | some last =>
      if last.contains '.' then do
        let first ← l.dropLast.mapM group?
        some (first ++ (← embedded? last))
      else l.mapM group?

/-- What stands before the first two colons in a row, and what follows them. -/
def cutRun? : Text → Option (Text × Text)
  | ':' :: ':' :: r => some ([], r)
  | c :: r => (cutRun? r).map fun (a, b) => (c :: a, b)
  | [] => none

/-- Reads the eight groups of an address. -/
def parse? (t : Text) : Option (List Nat) :=
  match cutRun? t with
  | some (before, after) => do
    let first ← groups? before
    let last ← lastGroups? after
    if first.length + last.length ≤ 7 then
      some (first ++ List.replicate (8 - first.length - last.length) 0 ++ last)
    else none
  | none => (lastGroups? t).filter (·.length = 8)

/-- The number of zeros at the start. -/
def zeros (groups : List Nat) : Nat := (groups.takeWhile (· = 0)).length

/-- The position and the length of the first longest run of zeros; `start` is the position of the
first group. -/
def longestRun (start : Nat) : List Nat → Nat × Nat
  | [] => (start, 0)
  | g :: r =>
    let rest := longestRun (start + 1) r
    let here := zeros (g :: r)
    if rest.2 ≤ here then (start, here) else rest

def colons (groups : List Nat) : Text := Text.joinWith [':'] (groups.map Text.hexadecimal)

/-- An address with its first longest run of zeros, if it is longer than one, written as two
colons. -/
def toText (groups : List Nat) : Text :=
  let (start, n) := longestRun 0 groups
  if n ≤ 1 then colons groups
  else colons (groups.take start) ++ "::".toList ++ colons (groups.drop (start + n))

end IPv6
end PageTitle
