import PageTitle.Text.Split

/-!
# Tables written as text

The data of the Unicode standard stand in the modules of this folder as texts of hexadecimal
numbers. A row is numbers with colons between them, and blanks separate rows. The first number of
a row is the distance from the first number of the row before.
-/

namespace PageTitle.Table

/-- The value of a hexadecimal digit in lower case. -/
def digit (c : Char) : Nat := if c.toNat < 58 then c.toNat - 48 else c.toNat - 87

def number (t : Text) : Nat := t.foldl (fun n c => 16 * n + digit c) 0

/-- The rows with their first numbers counted from zero; `start` is the first number of the row
before. -/
def shift (start : Nat) : List (List Nat) → List (List Nat)
  | [] => []
  | [] :: rows => [] :: shift start rows
  | (n :: row) :: rows => ((start + n) :: row) :: shift (start + n) rows

/-- The rows of a table. -/
def rows (s : String) : List (List Nat) :=
  shift 0 ((Text.words s.toList).map fun w => (Text.split ':' w).map number)

end PageTitle.Table
