import PageTitle.Text.Digits
import PageTitle.Unicode.Query

/-!
# Quoted texts

A text in double quotes as a log shows it: what cannot be seen is written as an escape.
-/

namespace PageTitle.Log

/-- The characters that cannot be seen by themselves: controls, blanks other than the space, code
points without a character, and marks that change the character before them. -/
def hidden : CharSet :=
  CharSet.union
    (GeneralCategory.union [.control, .format, .privateUse, .unassigned, .lineSeparator,
      .paragraphSeparator, .spaceSeparator])
    (UnicodeQuery.binary "graphemeextend")

/-- The form of a character between quotes. -/
def escaped (c : Char) : Text :=
  if c = '"' then ['\\', '"']
  else if c = '\\' then ['\\', '\\']
  else if c = '\n' then ['\\', 'n']
  else if c = '\r' then ['\\', 'r']
  else if c = '\t' then ['\\', 't']
  else if c.toNat = 0 then ['\\', '0']
  else if 0x20 ≤ c.toNat && c.toNat < 0x7F then [c]
  else if hidden.contains c then ['\\', 'u', '\x7b'] ++ Text.hexadecimal c.toNat ++ ['\x7d']
  else [c]

/-- A text between quotes. -/
def quoted (t : Text) : Text := '"' :: t.flatMap escaped ++ ['"']

end PageTitle.Log
