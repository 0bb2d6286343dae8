import PageTitle.Toml.Basic
import PageTitle.Toml.Quoted
import PageTitle.Toml.Scalar

/-!
# Reading TOML

A text is read as statements, one a line, and these are put together to a document.
-/

namespace PageTitle.Toml

/-- How many parts a key may have, and how deep arrays and inline tables may be nested. -/
def maxDepth : Nat := 79

def skipBlank (t : Text) : Text := t.dropWhile fun c => c = ' ' || c = '\t'

/-- What follows the comment that a text starts with, if there is one. -/
def skipComment : Text → Text
  | '#' :: r => r.dropWhile isPlain
  | t => t

/-- What follows the end of the line, if nothing but blanks and a comment stands before it. The end
of the text is one as well. -/
def endLine? (t : Text) : Option Text :=
  match skipComment (skipBlank t) with
  | [] => some []
  | '\n' :: r => some r
  | '\r' :: '\n' :: r => some r
  | _ => none

/-- What follows blanks, comments and line ends. -/
def skipLines : (inComment : Bool) → Text → Text
  | _, [] => []
  | _, '\n' :: r => skipLines false r
  | _, '\r' :: '\n' :: r => skipLines false r
  | inComment, c :: r =>
    if inComment && isPlain c then skipLines true r
    else if inComment then c :: r
    else if c = ' ' || c = '\t' then skipLines false r
    else if c = '#' then skipLines true r
    else c :: r

def isBareKey (c : Char) : Bool := Text.isAsciiLetter c || Text.isDigit 10 c || c = '-' || c = '_'

/-- Reads one part of a key. -/
def readPart (t : Text) : Option (Text × Text) :=
  if (t.takeWhile isBareKey).isEmpty then readShortString? t
  else some (t.takeWhile isBareKey, t.dropWhile isBareKey)

/-- Reads the parts of a key and the blanks around them. -/
def readParts (t : Text) : Option (List Text × Text) :=
  match readPart (skipBlank t) with
  | none => none
  | some (part, rest) =>
    match skipBlank rest with
    | '.' :: r =>
      if r.length < t.length then (readParts r).map fun (parts, rest) => (part :: parts, rest)
      else none
    | rest => some ([part], rest)
termination_by t.length

/-- Reads a key. -/
def readKey (t : Text) : Option (Key × Text) := do
  let (parts, rest) ← readParts t
  if parts.length ≤ maxDepth then some (⟨parts.dropLast, parts.getLastD []⟩, rest) else none

def isWordChar (c : Char) : Bool :=
  Text.isAsciiLetter c || Text.isDigit 10 c || c = '_' || c = '+' || c = '-' || c = '.' || c = ':'

/-- Reads a truth value, a number, a date or a time. Only between a date and a time a space may
stand. -/
def readWord (t : Text) : Option (Node × Text) :=
  let word := t.takeWhile isWordChar
  let rest := t.dropWhile isWordChar
  if word = "true".toList then some (.bool true, rest)
  else if word = "false".toList then some (.bool false, rest)
  else match isDate word, rest with
    | true, ' ' :: r =>
      if isClock (r.takeWhile isWordChar) then some (.scalar, r.dropWhile isWordChar)
      else some (.scalar, rest)
    | _, _ => if isScalar word then some (.scalar, rest) else none

/-- Reads a value that holds no other. -/
def readLeaf (t : Text) : Option (Node × Text) :=
  match t with
  | '"' :: _ | '\'' :: _ => (readString? t).map fun (s, rest) => (.text s, rest)
  | _ => readWord t

/-- Reads the values of an array, after its opening bracket, by a reader of single ones. The last
one may be followed by a comma. -/
def readItems (readItem : Text → Option (Node × Text)) (t : Text) : Option (List Node × Text) :=
  match skipLines false t with
  | ']' :: r => some ([], r)
  | t' =>
    match readItem t' with
    | none => none
    | some (v, rest) =>
      match skipLines false rest with
      | ']' :: r => some ([v], r)
      | ',' :: r =>
        if r.length < t.length then
          (readItems readItem r).map fun (vs, rest) => (v :: vs, rest)
        else none
      | _ => none
termination_by t.length

/-- Reads the assignments of an inline table that is not empty. -/
def readAssignments (readItem : Text → Option (Node × Text)) (t : Text) :
    Option (List (Key × Node) × Text) :=
  match readKey t with
  | some (k, '=' :: r) =>
    match readItem (skipBlank r) with
    | none => none
    | some (v, rest) =>
      match skipBlank rest with
      | '\x7d' :: r => some ([(k, v)], r)
      | ',' :: r =>
        if r.length < t.length then
          (readAssignments readItem r).map fun (l, rest) => ((k, v) :: l, rest)
        else none
      | _ => none
  | _ => none
termination_by t.length

/-- Reads an inline table after its opening bracket. -/
def readInline (readItem : Text → Option (Node × Text)) (t : Text) : Option (Node × Text) := do
  let (l, rest) ← match skipBlank t with
    | '\x7d' :: r => some ([], r)
    | _ => readAssignments readItem t
  some (.inline (← Members.ofAssignments? l), rest)

/-- Reads a value in which arrays and inline tables are nested no deeper than a limit. -/
def readValue : (depth : Nat) → Text → Option (Node × Text)
  | depth + 1, '[' :: r =>
    (readItems (readValue depth) r).map fun (items, rest) => (.array items, rest)
  | depth + 1, '\x7b' :: r => readInline (readValue depth) r
  | _, t => readLeaf t

/-- Reads a statement up to the end of its line. -/
def readStatement : Text → Option (Statement × Text)
  | '[' :: '[' :: r => do
    let (k, rest) ← readKey r
    some (.pushTable k, ← endLine? (← Text.dropFront? [']', ']'] rest))
  | '[' :: r => do
    let (k, rest) ← readKey r
    some (.openTable k, ← endLine? (← Text.dropFront? [']'] rest))
  | t => do
    let (k, rest) ← readKey t
    let (v, rest) ← readValue maxDepth (skipBlank (← Text.dropFront? ['='] rest))
    some (.assign k v, ← endLine? rest)

/-- The statements of a text. Lines may be empty. -/
def statements? (t : Text) : Option (List Statement) :=
  if t.isEmpty then some []
  else match endLine? t with
    | some rest => if rest.length < t.length then statements? rest else none
    | none =>
      match readStatement (skipBlank t) with
      | none => none
      | some (s, rest) => if rest.length < t.length then (statements? rest).map (s :: ·) else none
termination_by t.length

/-- A text without the mark of its byte order. -/
def dropByteOrderMark : Text → Text
  | c :: r => if c = Char.ofNat 0xFEFF then r else c :: r
  | [] => []

/-- The document that a text holds. -/
def read? (t : Text) : Option Members := do
  Members.ofStatements? (← statements? (dropByteOrderMark t))

end PageTitle.Toml
