import PageTitle.Text.Digits
import PageTitle.Text.Split

/-!
# Writing TOML

A string is written in the plainest of the forms that can hold it, which `Quoting.of` selects.
-/

namespace PageTitle.Toml

/-- The forms of a string. -/
inductive Quoting where
  | basic | literal | basicLines | literalLines
  deriving DecidableEq, Repr

/-- Whether a character can only be written as an escape. -/
def isControl (c : Char) : Bool :=
  (c.toNat < 0x20 && c ≠ '\t' && c ≠ '\n') || c.toNat = 0x7F

/-- The length of the longest run of a character, where `run` is the length of the one that ends
where the text starts. -/
def longestRun (c : Char) (run : Nat) : Text → Nat
  | [] => run
  | d :: r => if d = c then longestRun c (run + 1) r else max run (longestRun c 0 r)

/-- The plainest form that can hold a text: without escapes if that is possible, with basic quotes
before literal ones, and on one line if there is one line. -/
def Quoting.of (t : Text) : Quoting :=
  let control := t.any isControl
  let lines := t.any (· = '\n')
  let backslash := t.any (· = '\\')
  let quotes := longestRun '"' 0 t
  let apostrophes := longestRun '\'' 0 t
  if !control && !backslash && quotes = 0 && !lines then .basic
  else if !control && apostrophes = 0 && !lines then .literal
  else if !control && !backslash && quotes ≤ 2 then .basicLines
  else if !control && apostrophes ≤ 2 then .literalLines
  else if lines then .basicLines
  else .basic

/-- A code in at least four upper case hexadecimal digits. -/
def codeDigits (n : Nat) : Text :=
  [n / 4096 % 16, n / 256 % 16, n / 16 % 16, n % 16].map Text.upperHexDigit

/-- The escape of a character other than a quote, if it has to be escaped. -/
def escapeOf? (c : Char) : Option Text :=
  if c = '\\' then some ['\\', '\\']
  else if c = '\r' then some ['\\', 'r']
  else if c.toNat = 8 then some ['\\', 'b']
  else if c.toNat = 12 then some ['\\', 'f']
  else if isControl c then some ('\\' :: 'u' :: codeDigits c.toNat)
  else none

/-- The characters of a basic string. -/
def basicBody (t : Text) : Text :=
  t.flatMap fun c =>
    if c = '"' then ['\\', '"']
    else if c = '\n' then ['\\', 'n']
    else if c = '\t' then ['\\', 't']
    else (escapeOf? c).getD [c]

/-- The characters of a basic string over several lines, after a run of quotes. The third of three
quotes in a row is escaped. -/
def basicLinesBody : (run : Nat) → Text → Text
  | _, [] => []
  | run, c :: r =>
    if c = '"' then
      if run = 2 then '\\' :: '"' :: basicLinesBody 0 r else '"' :: basicLinesBody (run + 1) r
    else if c = '\t' then '\\' :: 't' :: basicLinesBody 0 r
    else (escapeOf? c).getD [c] ++ basicLinesBody 0 r

/-- The line end that follows the opening of a string over several lines. -/
def leadingLineEnd (t : Text) : Text := if t.any (· = '\n') then ['\n'] else []

/-- A string with its quotes. -/
def printString (t : Text) : Text :=
  match Quoting.of t with
  | .basic => '"' :: basicBody t ++ ['"']
  | .literal => '\'' :: t ++ ['\'']
  | .basicLines =>
    '"' :: '"' :: '"' :: leadingLineEnd t ++ basicLinesBody 0 t ++ ['"', '"', '"']
  | .literalLines => '\'' :: '\'' :: '\'' :: leadingLineEnd t ++ t ++ ['\'', '\'', '\'']

/-- An array of strings: more than one stand on lines of their own. -/
def printArray : List Text → Text
  | [] => ['[', ']']
  | [t] => '[' :: printString t ++ [']']
  | ts =>
    ['[', '\n'] ++ ts.flatMap (fun t => ' ' :: ' ' :: ' ' :: ' ' :: printString t ++ [',', '\n']) ++
      [']']

def printBool (b : Bool) : Text := if b then "true".toList else "false".toList

/-- The line that gives a name to a value. -/
def printLine (name value : Text) : Text := name ++ " = ".toList ++ value ++ ['\n']

end PageTitle.Toml
