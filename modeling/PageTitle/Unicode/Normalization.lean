import PageTitle.Unicode.Canonical

/-!
# Canonical composition

`compose` gives a text's canonical composed form: it decomposes every character, puts the marks
after each base character in the order of their combining classes, and joins what composes.
-/

namespace PageTitle.Canonical

/-- The combining class of a character; 0 is that of a base. -/
def combiningClass (c : Char) : Nat :=
  if c.toNat < 0x300 then 0
  else match classes.find? (fun (_, s) => s.contains c) with
    | some (v, _) => v
    | none => 0

/-- The first syllable, and the numbers of vowels and of trailing consonants, one of them absent,
in the block of syllables. -/
def syllableBase : Nat := 0xAC00
def vowelCount : Nat := 21
def trailingCount : Nat := 28
def syllableCount : Nat := 19 * vowelCount * trailingCount

/-- The parts of a syllable of the block, which are computed and not listed. -/
def splitSyllable? (c : Char) : Option Text :=
  if syllableBase ≤ c.toNat && c.toNat < syllableBase + syllableCount then
    let s := c.toNat - syllableBase
    let lead := Char.ofNat (0x1100 + s / (vowelCount * trailingCount))
    let vowel := Char.ofNat (0x1161 + s % (vowelCount * trailingCount) / trailingCount)
    let trail := s % trailingCount
    some (lead :: vowel :: if trail = 0 then [] else [Char.ofNat (0x11A7 + trail)])
  else none

/-- The full decomposition of a character. No character decomposes in more than `fuel` stages for
a `fuel` of four. -/
def decomposeChar : (fuel : Nat) → Char → Text
  | 0, c => [c]
  | fuel + 1, c =>
    if c.toNat < 0xC0 then [c]
    else match splitSyllable? c with
      | some parts => parts
      | none =>
        match decompositions.find? (fun row => row.head? = some c.toNat) with
        | some row => (row.tail.map Char.ofNat).flatMap (decomposeChar fuel)
        | none => [c]

/-- Puts a mark before the marks of its class and of higher ones. -/
def insertMark (c : Char) (v : Nat) : Text → Text
  | [] => [c]
  | d :: r =>
    let w := combiningClass d
    if 0 < w && w < v then d :: insertMark c v r else c :: d :: r

/-- The text with the marks after each base in ascending order of class; marks of one class keep
their order. -/
def orderMarks : Text → Text
  | [] => []
  | c :: r =>
    let v := combiningClass c
    if v = 0 then c :: orderMarks r else insertMark c v (orderMarks r)

/-- The character that two in a row compose to. -/
def pair? (a b : Char) : Option Char :=
  let x := a.toNat
  let y := b.toNat
  if 0x1100 ≤ x && x < 0x1113 && 0x1161 ≤ y && y < 0x1161 + vowelCount then
    some (Char.ofNat
      (syllableBase + ((x - 0x1100) * vowelCount + (y - 0x1161)) * trailingCount))
  else if syllableBase ≤ x && x < syllableBase + syllableCount &&
      (x - syllableBase) % trailingCount = 0 && 0x11A7 < y && y < 0x11A7 + trailingCount then
    some (Char.ofNat (x + (y - 0x11A7)))
  else match decompositions.find? (fun row => row.tail = [x, y]) with
    | some (n :: _) =>
      let c := Char.ofNat n
      if excluded.contains c then none else some c
    | _ => none

/-- Composes from left to right. `base` is the last base character, `marks` what follows it and
did not compose, the last one first, and `last` the class of the last of them. -/
def composeFrom (base : Char) (marks : Text) (last : Nat) : Text → Text
  | [] => base :: marks.reverse
  | c :: r =>
    let v := combiningClass c
    match if marks.isEmpty || last < v then pair? base c else none with
    | some d => composeFrom d marks last r
    | none =>
      if v = 0 then base :: marks.reverse ++ composeFrom c [] 0 r
      else composeFrom base (c :: marks) v r

/-- The composed form of a text in canonical order. -/
def composeOrdered : Text → Text
  | [] => []
  | c :: r => if combiningClass c = 0 then composeFrom c [] 0 r else c :: composeOrdered r

/-- The canonical composed form of a text. -/
def compose (t : Text) : Text :=
  if t.all (fun c => c.toNat < 0xC0) then t
  else composeOrdered (orderMarks (t.flatMap (decomposeChar 4)))

end PageTitle.Canonical
