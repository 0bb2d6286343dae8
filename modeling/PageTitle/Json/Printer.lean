import PageTitle.Json.Basic

/-!
# Writing JSON

Values without blanks between their tokens. In strings only quotes, backslashes and control
characters below the space are escaped.
-/

namespace PageTitle.Json

/-- Four hexadecimal digits. -/
def fourDigits (n : Nat) : Text :=
  let ds := Text.hexadecimal n
  List.replicate (4 - ds.length) '0' ++ ds

/-- How a character is written in a string. -/
def charText (c : Char) : Text :=
  match c with
  | '"' => ['\\', '"']
  | '\\' => ['\\', '\\']
  | '\n' => ['\\', 'n']
  | '\r' => ['\\', 'r']
  | '\t' => ['\\', 't']
  | c =>
    if c.toNat = 8 then ['\\', 'b']
    else if c.toNat = 12 then ['\\', 'f']
    else if c.toNat < 0x20 then '\\' :: 'u' :: fourDigits c.toNat
    else [c]

/-- A text in quotes. -/
def quoted (t : Text) : Text := '"' :: (t.flatMap charText ++ ['"'])

def intText (n : Int) : Text := (if n < 0 then ['-'] else []) ++ Text.decimal n.natAbs

def numberText : Number → Text
  | .integer n => intText n
  | .real n places => intText n ++ ['e'] ++ intText (-(places : Int))

mutual

/-- The text of a value; an absent leaf is written as null. -/
def toText : Json → Text
  | null => "null".toList
  | bool b => if b then "true".toList else "false".toList
  | number (some n) => numberText n
  | number none => "null".toList
  | string (some t) => quoted t
  | string none => "null".toList
  | array l => '[' :: (itemsText l ++ [']'])
  | object l => '\x7b' :: (membersText l ++ ['\x7d'])

def itemsText : List Json → Text
  | [] => []
  | [j] => j.toText
  | j :: r => j.toText ++ ',' :: itemsText r

def membersText : List (Option Text × Json) → Text
  | [] => []
  | [(k, j)] => quoted (k.getD []) ++ ':' :: j.toText
  | (k, j) :: r => quoted (k.getD []) ++ ':' :: j.toText ++ ',' :: membersText r

end

end PageTitle.Json
