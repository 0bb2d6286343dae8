import PageTitle.Json.Basic

/-!
# JSON tokens

A text is cut into marks and leaves. Strings and numbers follow the grammar of JSON to the letter;
only what they stand for may be absent.
-/

namespace PageTitle.Json

/-- A part of a text: a value that holds no other, or a mark. -/
inductive Token where
  | leaf (j : Json)
  | openArray | closeArray | openObject | closeObject | comma | colon
  deriving Repr

/-- A character of a string, or the code of one written in four digits. -/
inductive StringPart where
  | char (c : Char)
  | code (n : Nat)
  deriving DecidableEq, Repr

def isHigh (n : Nat) : Bool := 0xD800 ≤ n && n ≤ 0xDBFF

def isLow (n : Nat) : Bool := 0xDC00 ≤ n && n ≤ 0xDFFF

/-- The text of the parts of a string, where two codes may stand for one character; nothing if half
of such a pair is missing. -/
def joinParts : List StringPart → Option Text
  | [] => some []
  | .char c :: r => (joinParts r).map (c :: ·)
  | .code n :: .code m :: r =>
    if isHigh n then
      if isLow m then
        (joinParts r).map (Char.ofNat (0x10000 + (n - 0xD800) * 0x400 + (m - 0xDC00)) :: ·)
      else none
    else if isLow n then none
    else (joinParts (.code m :: r)).map (Char.ofNat n :: ·)
  | .code n :: r => if isHigh n || isLow n then none else (joinParts r).map (Char.ofNat n :: ·)

/-- The character that a letter after a backslash stands for. -/
def escape? : Char → Option Char
  | '"' => some '"'
  | '\\' => some '\\'
  | '/' => some '/'
  | 'b' => some (Char.ofNat 8)
  | 'f' => some (Char.ofNat 12)
  | 'n' => some '\n'
  | 'r' => some '\r'
  | 't' => some '\t'
  | _ => none

/-- Reads a string after its opening quote. -/
def readString : Text → Option (List StringPart × Text)
  | [] => none
  | '"' :: r => some ([], r)
  | '\\' :: 'u' :: a :: b :: c :: d :: r => do
    let n ← [a, b, c, d].mapM (Text.digit? 16)
    let (parts, rest) ← readString r
    some (.code (Text.ofDigits 16 n) :: parts, rest)
  | '\\' :: e :: r => do
    let c ← escape? e
    let (parts, rest) ← readString r
    some (.char c :: parts, rest)
  | c :: r =>
    if c.toNat < 0x20 || c = '\\' then none
    else (readString r).map fun (parts, rest) => (.char c :: parts, rest)

/-- The digits that a text starts with, and what follows them. -/
def readDigits : Text → List Nat × Text
  | [] => ([], [])
  | c :: r =>
    match Text.digit? 10 c with
    | some d => let (ds, rest) := readDigits r; (d :: ds, rest)
    | none => ([], c :: r)

/-- Reads the digits after the point of a number, if there is a point. -/
def readFraction : Text → Option (Option (List Nat) × Text)
  | '.' :: r =>
    match readDigits r with
    | ([], _) => none
    | (ds, rest) => some (some ds, rest)
  | t => some (none, t)

/-- Reads the exponent of a number, if there is one. -/
def readExponent : Text → Option (Option Int × Text)
  | c :: r =>
    if c = 'e' || c = 'E' then
      let (negative, r) := match r with
        | '-' :: r' => (true, r')
        | '+' :: r' => (false, r')
        | _ => (false, r)
      match readDigits r with
      | ([], _) => none
      | (ds, rest) =>
        let n : Int := Text.ofDigits 10 ds
        some (some (if negative then -n else n), rest)
    else some (none, c :: r)
  | [] => some (none, [])

/-- What a number stands for. Only one without point and exponent is an integer, and zero has no
sign as an integer. -/
def numberOf? (negative : Bool) (whole : List Nat) (fraction : Option (List Nat))
    (exponent : Option Int) : Option Number :=
  let n : Int := Text.ofDigits 10 whole
  let n := if negative then -n else n
  if fraction.isNone && exponent.isNone && !(negative && n = 0) && Number.leastInteger ≤ n &&
      n ≤ Number.greatestInteger then some (.integer n)
  else Number.ofDigits? negative whole (fraction.getD []) (exponent.getD 0)

/-- Reads a number. More than one digit before the point do not start with zero. -/
def readNumber (t : Text) : Option (Option Number × Text) := do
  let (negative, t) := match t with
    | '-' :: r => (true, r)
    | _ => (false, t)
  let (whole, rest) := readDigits t
  match whole with
  | [] => none
  | 0 :: _ :: _ => none
  | _ =>
    let (fraction, rest) ← readFraction rest
    let (exponent, rest) ← readExponent rest
    some (numberOf? negative whole fraction exponent, rest)

def isBlank (c : Char) : Bool := c = ' ' || c = '\t' || c = '\n' || c = '\r'

/-- Reads one token, of which `c` is the first character; nothing is made of a blank. -/
def readToken (c : Char) (r : Text) : Option (Option Token × Text) :=
  let word (rest : String) (j : Json) : Option (Option Token × Text) :=
    (Text.dropFront? rest.toList r).map fun rest => (some (.leaf j), rest)
  let mark (t : Token) : Option (Option Token × Text) := some (some t, r)
  match c with
  | '[' => mark .openArray
  | ']' => mark .closeArray
  | '\x7b' => mark .openObject
  | '\x7d' => mark .closeObject
  | ',' => mark .comma
  | ':' => mark .colon
  | 'n' => word "ull" .null
  | 't' => word "rue" (.bool true)
  | 'f' => word "alse" (.bool false)
  | '"' => (readString r).map fun (parts, rest) => (some (.leaf (.string (joinParts parts))), rest)
  | c =>
    if isBlank c then some (none, r)
    else (readNumber (c :: r)).map fun (n, rest) => (some (.leaf (.number n)), rest)

/-- The tokens of a text. -/
def tokens? (t : Text) : Option (List Token) :=
  match t with
  | [] => some []
  | c :: r =>
    match readToken c r with
    | none => none
    | some (token, rest) =>
      if rest.length ≤ r.length then (tokens? rest).map (token.toList ++ ·) else none
termination_by t.length
decreasing_by simp; omega

end PageTitle.Json
