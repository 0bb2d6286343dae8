import PageTitle.Pattern.Mode

/-!
# Escapes in patterns

What a backslash and the characters after it stand for: a character, a set of characters or a
place.
-/

namespace PageTitle.Pattern

/-- What one item of a pattern stands for. A character written as two hexadecimal digits is a byte
where the pattern is not about Unicode. -/
inductive Item where
  | char (c : Char) (byte : Bool)
  | set (s : CharSet)
  | look (l : Look)
  deriving DecidableEq, Repr

/-- The characters with a meaning of their own, some in sets only. -/
def isMeta (c : Char) : Bool := "\\.+*?()|[]\x7b\x7d^$#&-~".toList.contains c

/-- Whether a backslash before the character leaves it as it is. -/
def isPlainEscape (c : Char) : Bool :=
  isMeta c || (c.toNat < 0x80 && !c.isAlphanum && !(c = '<' || c = '>'))

/-- The character of a code point. -/
def charOf? (n : Nat) : Option Char := if n.isValidChar then some (Char.ofNat n) else none

/-- The character that hexadecimal digits in braces or `digits` of them stand for. -/
def readHex (m : Mode) (digits : Nat) (t : Text) : Option (Item × Text) :=
  match m.skip t with
  | '\x7b' :: r =>
    match m.takeAll (Text.isDigit 16) (m.skip r) with
    | (ds, '\x7d' :: rest) => do
      let c ← charOf? (← Text.number? 16 ds)
      some (.char c false, m.skip rest)
    | _ => none
  | t =>
    let (ds, rest) := m.take (Text.isDigit 16) digits t
    if ds.length = digits then do
      let c ← charOf? (← Text.number? 16 ds)
      some (.char c (digits = 2), rest)
    else none

/-- The sets that a letter stands for, by the name that ASCII has for them. -/
def asciiSet? (name : String) : Option CharSet :=
  match name with
  | "alnum" => some (CharSet.unions [.range 0x30 0x39, .range 0x41 0x5A, .range 0x61 0x7A])
  | "alpha" => some (CharSet.unions [.range 0x41 0x5A, .range 0x61 0x7A])
  | "ascii" => some (.range 0 0x7F)
  | "blank" => some (CharSet.unions [.single 9, .single 0x20])
  | "cntrl" => some (CharSet.unions [.range 0 0x1F, .single 0x7F])
  | "digit" => some (.range 0x30 0x39)
  | "graph" => some (.range 0x21 0x7E)
  | "lower" => some (.range 0x61 0x7A)
  | "print" => some (.range 0x20 0x7E)
  | "punct" => some (CharSet.unions
      [.range 0x21 0x2F, .range 0x3A 0x40, .range 0x5B 0x60, .range 0x7B 0x7E])
  | "space" => some (CharSet.unions [.range 9 13, .single 0x20])
  | "upper" => some (.range 0x41 0x5A)
  | "word" => some (CharSet.unions
      [.range 0x30 0x39, .range 0x41 0x5A, .single 0x5F, .range 0x61 0x7A])
  | "xdigit" => some (CharSet.unions [.range 0x30 0x39, .range 0x41 0x46, .range 0x61 0x66])
  | _ => none

/-- The set of digits, of blanks or of characters of words that a letter stands for; its capital
stands for all others. -/
def letterSet? (m : Mode) (c : Char) : Option CharSet := do
  let (unicode, ascii) ←
    match c.toLower with
    | 'd' => some (UnicodeQuery.decimalDigits, "digit")
    | 's' => some (UnicodeQuery.blanks, "space")
    | 'w' => some (UnicodeQuery.wordChars, "word")
    | _ => none
  if m.unicode then some (if c.isUpper then unicode.compl else unicode)
  else if c.isUpper then none
  else asciiSet? ascii

/-- The characters that a name, or a property and a value, ask for. -/
def propertySet? (name : Text) : Option CharSet :=
  let rec unequal? : Text → Option (Text × Text)
    | '!' :: '=' :: r => some ([], r)
    | c :: r => (unequal? r).map fun (a, b) => (c :: a, b)
    | [] => none
  match (unequal? name).orElse fun _ =>
      (Text.cut? (· = ':') name).orElse fun _ => Text.cut? (· = '=') name with
  | some (property, value) => UnicodeQuery.valued? property value
  | none => UnicodeQuery.named? name

/-- The set that a property in braces or of one letter stands for. -/
def readProperty (m : Mode) (negated : Bool) (t : Text) : Option (Item × Text) := do
  let (name, rest) ←
    match m.skip t with
    | '\x7b' :: r =>
      match m.takeAll (· ≠ '\x7d') (m.skip r) with
      | (name, '\x7d' :: rest) => some (name, rest)
      | _ => none
    | '\\' :: _ => none
    | c :: r => some ([c], m.skip r)
    | [] => none
  if m.unicode then
    let s ← m.finish? negated (← propertySet? name)
    some (.set s, rest)
  else none

/-- The place at the edge of a word that a name in braces after `\b` stands for. Nothing is read
where the brace opens a repetition. -/
def readBoundary (m : Mode) (t : Text) : Option (Item × Text) :=
  let isNameChar : Char → Bool := fun c => Text.isAsciiLetter c || c = '-'
  let plain : Item × Text := (.look (if m.unicode then .wordBoundary else .asciiBoundary), t)
  match t with
  | '\x7b' :: r =>
    match m.skip r with
    | [] => none
    | c :: r' =>
      if isNameChar c then
        match m.takeAll isNameChar (c :: r') with
        | (name, '\x7d' :: rest) =>
          match String.ofList name with
          | "start" => some (.look (if m.unicode then .wordStart else .asciiStart), rest)
          | "end" => some (.look (if m.unicode then .wordStop else .asciiStop), rest)
          | "start-half" =>
            some (.look (if m.unicode then .wordStartHalf else .asciiStartHalf), rest)
          | "end-half" =>
            some (.look (if m.unicode then .wordStopHalf else .asciiStopHalf), rest)
          | _ => none
        | _ => none
      else some plain
  | _ => some plain

/-- Reads what follows a backslash. -/
def readEscape (m : Mode) (t : Text) : Option (Item × Text) :=
  match t with
  | [] => none
  | c :: r =>
    let char (n : Nat) : Option (Item × Text) := some (.char (Char.ofNat n) false, r)
    let look (unicode ascii : Look) : Option (Item × Text) :=
      some (.look (if m.unicode then unicode else ascii), r)
    if isPlainEscape c then some (.char c false, r)
    else match c with
      | 'x' => readHex m 2 r
      | 'u' => readHex m 4 r
      | 'U' => readHex m 8 r
      | 'p' => readProperty m false r
      | 'P' => readProperty m true r
      | 'a' => char 7
      | 'f' => char 12
      | 't' => char 9
      | 'n' => char 10
      | 'r' => char 13
      | 'v' => char 11
      | 'A' => look .start .start
      | 'z' => look .stop .stop
      | 'b' => readBoundary m r
      | 'B' => look .noWordBoundary .noAsciiBoundary
      | '<' => look .wordStart .asciiStart
      | '>' => look .wordStop .asciiStop
      | _ => (letterSet? m c).map fun s => (.set s, r)

end PageTitle.Pattern
