import PageTitle.Text.Digits

/-!
# TOML strings

The four ways to quote a text: basic strings with escapes, literal strings without, and both over
several lines. Each reader starts after the opening quotes and returns the text with what follows
the closing ones.
-/

namespace PageTitle.Toml

/-- Whether a character may stand in a comment or, quotes and backslash apart, in a string. -/
def isPlain (c : Char) : Bool := c = '\t' || (0x20 ≤ c.toNat && c.toNat ≠ 0x7F)

/-- The character that digits after a backslash stand for. -/
def escapedCode? (digits : Text) : Option Char := do
  let n ← digits.mapM (Text.digit? 16)
  let c := Char.ofNat (Text.ofDigits 16 n)
  if c.toNat = Text.ofDigits 16 n then some c else none

/-- The character that a letter after a backslash stands for. -/
def escaped? : Char → Option Char
  | 'b' => some (Char.ofNat 8)
  | 't' => some '\t'
  | 'n' => some '\n'
  | 'f' => some (Char.ofNat 12)
  | 'r' => some '\r'
  | '"' => some '"'
  | '\\' => some '\\'
  | _ => none

/-- A reader's text and what follows it, with one more character in front. -/
def withChar (c : Char) : Option (Text × Text) → Option (Text × Text) :=
  Option.map fun (t, rest) => (c :: t, rest)

/-- Reads a basic string. -/
def readBasic : Text → Option (Text × Text)
  | [] => none
  | '"' :: r => some ([], r)
  | '\\' :: 'u' :: a :: b :: c :: d :: r => do
    withChar (← escapedCode? [a, b, c, d]) (readBasic r)
  | '\\' :: 'U' :: a :: b :: c :: d :: e :: f :: g :: h :: r => do
    withChar (← escapedCode? [a, b, c, d, e, f, g, h]) (readBasic r)
  | '\\' :: e :: r => do withChar (← escaped? e) (readBasic r)
  | c :: r => if isPlain c && c ≠ '\\' then withChar c (readBasic r) else none

/-- Reads a literal string. -/
def readLiteral : Text → Option (Text × Text)
  | [] => none
  | c :: r =>
    if c = '\'' then some ([], r)
    else if isPlain c then withChar c (readLiteral r) else none

/-- The end of a string over several lines, after three closing quotes: up to two more belong to the
text. -/
def readQuotes (quote : Char) : Text → Text × Text
  | a :: b :: r =>
    if a = quote then if b = quote then ([a, b], r) else ([a], b :: r) else ([], a :: b :: r)
  | [a] => if a = quote then ([a], []) else ([], [a])
  | [] => ([], [])

/-- Whether nothing but blanks stands before the end of the line. -/
def atLineEnd : Text → Bool
  | '\n' :: _ => true
  | '\r' :: '\n' :: _ => true
  | c :: r => (c = ' ' || c = '\t') && atLineEnd r
  | [] => false

/-- Reads a basic string over several lines. A backslash at the end of a line takes away all blanks
up to the next other character: they are skipped. -/
def readBasicLines : (skipping : Bool) → Text → Option (Text × Text)
  | _, [] => none
  | _, '"' :: '"' :: '"' :: r => some (readQuotes '"' r)
  | _, '\\' :: 'u' :: a :: b :: c :: d :: r => do
    withChar (← escapedCode? [a, b, c, d]) (readBasicLines false r)
  | _, '\\' :: 'U' :: a :: b :: c :: d :: e :: f :: g :: h :: r => do
    withChar (← escapedCode? [a, b, c, d, e, f, g, h]) (readBasicLines false r)
  | _, '\\' :: e :: r =>
    if atLineEnd (e :: r) then readBasicLines true (e :: r)
    else do withChar (← escaped? e) (readBasicLines false r)
  | skipping, '\r' :: '\n' :: r =>
    if skipping then readBasicLines true r else withChar '\n' (readBasicLines false r)
  | skipping, c :: r =>
    if skipping && (c = ' ' || c = '\t' || c = '\n') then readBasicLines true r
    else if (isPlain c || c = '\n') && c ≠ '\\' then withChar c (readBasicLines false r)
    else none

/-- Reads a literal string over several lines. -/
def readLiteralLines : Text → Option (Text × Text)
  | [] => none
  | '\'' :: '\'' :: '\'' :: r => some (readQuotes '\'' r)
  | '\r' :: '\n' :: r => withChar '\n' (readLiteralLines r)
  | c :: r => if isPlain c || c = '\n' then withChar c (readLiteralLines r) else none

/-- What follows the line end that a text starts with, if there is one. -/
def dropLineEnd : Text → Text
  | '\n' :: r => r
  | '\r' :: '\n' :: r => r
  | t => t

/-- Reads a string on one line with its quotes. -/
def readShortString? : Text → Option (Text × Text)
  | '"' :: r => readBasic r
  | '\'' :: r => readLiteral r
  | _ => none

/-- Reads a string with its quotes. A line end after the opening of a string over several lines is
no part of it. -/
def readString? : Text → Option (Text × Text)
  | '"' :: '"' :: '"' :: r => readBasicLines false (dropLineEnd r)
  | '\'' :: '\'' :: '\'' :: r => readLiteralLines (dropLineEnd r)
  | t => readShortString? t

end PageTitle.Toml
