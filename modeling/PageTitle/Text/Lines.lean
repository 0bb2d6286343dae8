import PageTitle.Text.Split

/-!
# Lines

The lines of an input, of which the last one may lack its end.
-/

namespace PageTitle.Text

/-- A line without the carriage return that may stand before the end of the line. -/
def dropReturn (t : Text) : Text := (dropBack? ['\r'] t).getD t

/-- The lines of a text. A text that ends in a line end has no line after it, and a carriage return
belongs to the line end if there is one. -/
def lines (t : Text) : List Text :=
  let parts := split '\n' t
  let last := parts.getLastD []
  parts.dropLast.map dropReturn ++ if last.isEmpty then [] else [last]

/-- A text with blanks behind it up to a length. -/
def padRight (n : Nat) (t : Text) : Text := t ++ List.replicate (n - t.length) ' '

end PageTitle.Text
