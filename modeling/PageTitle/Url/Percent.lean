import PageTitle.Text.Digits
import PageTitle.Text.Utf8

/-!
# Percent encoding

A byte that may not stand in a part of a web address is written as a percent sign and two digits.
Every part has its own set of such characters; no part holds a character outside ASCII.
-/

namespace PageTitle.Percent

/-- A byte in percent encoding. -/
def byte (b : UInt8) : Text :=
  ['%', Text.upperHexDigit (b.toNat / 16), Text.upperHexDigit (b.toNat % 16)]

/-- The characters below the space, the delete character and all outside ASCII. -/
def controls (c : Char) : Bool := c.toNat < 0x20 || 0x7F ≤ c.toNat

def fragment (c : Char) : Bool :=
  controls c || c = ' ' || c = '"' || c = '<' || c = '>' || c = '\x60'

def query (c : Char) : Bool :=
  controls c || c = ' ' || c = '"' || c = '#' || c = '<' || c = '>'

/-- The set of queries whose scheme is a special one. -/
def specialQuery (c : Char) : Bool := query c || c = '\x27'

def path (c : Char) : Bool := fragment c || c = '#' || c = '?' || c = '\x7b' || c = '\x7d'

def userinfo (c : Char) : Bool := path c || "/:;=@[\\]^|".toList.contains c

/-- A text with the characters of a set encoded. -/
def encode (set : Char → Bool) (t : Text) : Text :=
  t.flatMap fun c => if set c then (String.utf8EncodeChar c).flatMap byte else [c]

/-- The bytes that a text stands for, encoded ones and the others. -/
def decode : Text → List UInt8
  | [] => []
  | '%' :: a :: b :: r =>
    match Text.digit? 16 a, Text.digit? 16 b with
    | some x, some y => UInt8.ofNat (16 * x + y) :: decode r
    | _, _ => 0x25 :: decode (a :: b :: r)
  | c :: r => String.utf8EncodeChar c ++ decode r

end PageTitle.Percent
