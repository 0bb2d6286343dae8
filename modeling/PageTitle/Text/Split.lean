import PageTitle.Text.Basic

/-!
# Splitting

`split` cuts a text at each separator and `joinWith` puts the separators back.
-/

namespace PageTitle.Text

/-- The parts of a text between the characters that satisfy `p`; one part more than there are
such characters. -/
def splitBy (p : Char → Bool) : Text → List Text
  | [] => [[]]
  | c :: r =>
    if p c then [] :: splitBy p r
    else match splitBy p r with
      | part :: parts => (c :: part) :: parts
      | [] => [[c]]

/-- The parts of a text between the occurrences of a character. -/
def split (sep : Char) (t : Text) : List Text := splitBy (· = sep) t

/-- The parts in a row with a separator between neighbours. -/
def joinWith (sep : Text) : List Text → Text
  | [] => []
  | [part] => part
  | part :: parts => part ++ sep ++ joinWith sep parts

theorem splitBy_ne_nil (p : Char → Bool) (t : Text) : splitBy p t ≠ [] := by
  induction t with
  | nil => simp [splitBy]
  | cons c r ih =>
    rw [splitBy]
    split
    · simp
    · split <;> simp

end PageTitle.Text
