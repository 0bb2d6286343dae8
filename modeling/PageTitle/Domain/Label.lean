import PageTitle.Domain.Mapping
import PageTitle.Domain.Punycode
import PageTitle.Unicode.Direction
import PageTitle.Unicode.GeneralCategory
import PageTitle.Unicode.Normalization

/-!
# Labels

The parts of a domain name between its dots, and what a label may hold: no mark at its start,
joiners only where they change the shape of their neighbours, and in a name with text that runs
from right to left no mixture of directions.
-/

namespace PageTitle.Domain

/-- What a label in Punycode starts with. -/
def acePrefix : Text := "xn--".toList

def zeroWidthNonJoiner : Char := Char.ofNat 0x200C
def zeroWidthJoiner : Char := Char.ofNat 0x200D

/-- Whether the last character before a joiner suppresses a vowel. -/
def afterVirama (before : Text) : Bool :=
  match before with
  | [] => false
  | c :: _ => Canonical.combiningClass c = 9

/-- The joining type of the first character that is not transparent. -/
def joiningNext : Text → JoiningType
  | [] => .none
  | c :: r =>
    match JoiningType.ofChar c with
    | .transparent => joiningNext r
    | j => j

/-- Whether a joiner may stand between `before`, which is reversed, and `after`. -/
def joinerFits (joiner : Char) (before after : Text) : Bool :=
  afterVirama before ||
    joiner = zeroWidthNonJoiner &&
      (joiningNext before = .left || joiningNext before = .dual) &&
      (joiningNext after = .right || joiningNext after = .dual)

/-- Whether all joiners of a label stand where they may; `before` is what was read, reversed. -/
def joinersFit (before : Text) : Text → Bool
  | [] => true
  | c :: r =>
    (!(c = zeroWidthNonJoiner || c = zeroWidthJoiner) || joinerFits c before r) &&
      joinersFit (c :: before) r

/-- Whether a label may stand in a name, its directions apart. -/
def wellFormed (label : Text) : Bool :=
  match label with
  | [] => true
  | c :: _ => !GeneralCategory.marks.contains c && joinersFit [] label

/-- Whether a class makes its name one of mixed directions. -/
def isRightToLeft (b : BidiClass) : Bool :=
  b = .rightToLeft || b = .arabicLetter || b = .arabicNumber

/-- The class of the last character that is no nonspacing mark, of a reversed label. -/
def lastClass : Text → BidiClass
  | [] => .nonspacingMark
  | c :: r =>
    match BidiClass.ofChar c with
    | .nonspacingMark => lastClass r
    | b => b

/-- Whether the characters of a label keep to one direction. -/
def oneDirection (label : Text) : Bool :=
  match label with
  | [] => true
  | c :: _ =>
    let classes := label.map BidiClass.ofChar
    let last := lastClass label.reverse
    match BidiClass.ofChar c with
    | .leftToRight =>
      classes.all (fun b =>
        b ∈ [.leftToRight, .europeanNumber, .europeanSeparator, .commonSeparator,
          .europeanTerminator, .otherNeutral, .boundaryNeutral, .nonspacingMark]) &&
        (last = .leftToRight || last = .europeanNumber)
    | .rightToLeft | .arabicLetter =>
      classes.all (fun b =>
        b ∈ [.rightToLeft, .arabicLetter, .arabicNumber, .europeanNumber, .europeanSeparator,
          .commonSeparator, .europeanTerminator, .otherNeutral, .boundaryNeutral,
          .nonspacingMark]) &&
        last ∈ [.rightToLeft, .arabicLetter, .europeanNumber, .arabicNumber] &&
        !(classes.contains .europeanNumber && classes.contains .arabicNumber)
    | _ => false

end PageTitle.Domain
