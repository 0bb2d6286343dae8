import PageTitle.Domain.Label
import PageTitle.Text.Split

/-!
# Domain names

A domain name has a form in ASCII and a form that people read. `toAscii?` maps each character,
composes the result, reads the labels in Punycode, checks every label and writes those with other
characters in Punycode again. `toUnicode` reads the labels of a name in ASCII.
-/

namespace PageTitle.Domain

/-- The ASCII characters that the host of a web address may not hold. -/
def forbidden (c : Char) : Bool :=
  c.toNat ≤ 0x20 || c.toNat = 0x7F || "%#/:<>?@[\\]^|".toList.contains c

/-- A text with every character mapped, in composed form. -/
def mapAll? (t : Text) : Option Text :=
  (t.mapM mapChar?).map fun parts => Canonical.compose parts.flatten

/-- The longest label in Punycode that is read, and the longest label that is written so. -/
def maxRead : Nat := 2000
def maxWritten : Nat := 1000

/-- The text of a mapped label: itself, or what its Punycode says. Punycode may only stand for a
text that mapping does not change and that is not all ASCII. -/
def readLabel? (label : Text) : Option Text :=
  match Text.dropFront? acePrefix label with
  | none => some label
  | some code =>
    if code.length ≤ maxRead && code.getLast? ≠ some '-' && code.getLast? ≠ none &&
        code.all (fun c => c.toNat < 0x80) then
      match Punycode.decode? code with
      | some t => if mapAll? t = some t then some t else none
      | none => none
    else none

/-- The label in ASCII. -/
def writeLabel? (label : Text) : Option Text :=
  if label.all (fun c => c.toNat < 0x80) then some label
  else if label.length ≤ maxWritten then some (acePrefix ++ Punycode.encode label)
  else none

/-- The labels of a name in the form that people read, if the name is a valid one. -/
def labels? (t : Text) : Option (List Text) := do
  let labels ← (Text.split '.' (← mapAll? t)).mapM readLabel?
  if labels.any (·.any forbidden) then none
  else if !labels.all wellFormed then none
  else if labels.any (·.any fun c => isRightToLeft (BidiClass.ofChar c)) &&
      !labels.all oneDirection then none
  else some labels

/-- The form of a domain name in ASCII, if it is a valid one. -/
def toAscii? (t : Text) : Option Text := do
  let labels ← (← labels? t).mapM writeLabel?
  some (Text.joinWith ['.'] labels)

/-- The form that people read of a domain name in ASCII. -/
def toUnicode (t : Text) : Text :=
  Text.joinWith ['.'] ((Text.split '.' t).map fun label => (readLabel? label).getD label)

end PageTitle.Domain
