import PageTitle.Text.Basic

/-!
# Punycode

A text as letters, digits and hyphens: the ASCII characters come first, then numbers in a
variable-length base 36 that say which character is inserted next and where.
-/

namespace PageTitle.Punycode

/-- The digit of a value below 36: letters come before decimal digits. -/
def digit (d : Nat) : Char := if d < 26 then Char.ofNat (0x61 + d) else Char.ofNat (0x16 + d)

def value? (c : Char) : Option Nat :=
  let n := c.toNat
  if 0x61 ≤ n && n ≤ 0x7A then some (n - 0x61)
  else if 0x41 ≤ n && n ≤ 0x5A then some (n - 0x41)
  else if 0x30 ≤ n && n ≤ 0x39 then some (n - 0x16)
  else none

/-- The least digit that goes on a number at weight position `k`. -/
def threshold (k bias : Nat) : Nat :=
  if k ≤ bias then 1 else min 26 (k - bias)

theorem threshold_pos (k bias : Nat) : 0 < threshold k bias := by
  unfold threshold; split <;> omega

theorem threshold_le (k bias : Nat) : threshold k bias ≤ 26 := by
  unfold threshold; split <;> omega

/-- Scales a distance down until it is at most 455, and counts 36 per division. -/
def scale (delta k : Nat) : Nat × Nat :=
  if 455 < delta then scale (delta / 35) (k + 36) else (delta, k)
termination_by delta
decreasing_by omega

/-- The bias after a distance, for a text that then has `count` characters. -/
def adapt (delta count : Nat) (first : Bool) : Nat :=
  let d := if first then delta / 700 else delta / 2
  let (d, k) := scale (d + d / count) 0
  k + 36 * d / (d + 38)

/-- The digits of a number. -/
def digits (bias k q : Nat) : Text :=
  if q < threshold k bias then [digit q]
  else
    digit (threshold k bias + (q - threshold k bias) % (36 - threshold k bias)) ::
      digits bias (k + 36) ((q - threshold k bias) / (36 - threshold k bias))
termination_by q
decreasing_by
  have h := threshold_pos k bias
  exact Nat.lt_of_le_of_lt (Nat.div_le_self _ _) (by omega)

structure Encoder where
  out : Text
  delta : Nat
  bias : Nat
  count : Nat

/-- Takes one character of the text on the pass for code point `n`. -/
def Encoder.pass (basic n : Nat) (e : Encoder) (c : Char) : Encoder :=
  if c.toNat < n then { e with delta := e.delta + 1 }
  else if c.toNat = n then
    { out := e.out ++ digits e.bias 36 e.delta
      delta := 0
      bias := adapt e.delta (e.count + 1) (e.count = basic)
      count := e.count + 1 }
  else e

/-- Encodes the code points of a list, which ascends; `n` is the one to try next. -/
def encodeFrom (t : Text) (basic : Nat) : (n : Nat) → List Nat → Encoder → Encoder
  | _, [], e => e
  | n, m :: ms, e =>
    if m < n then encodeFrom t basic n ms e
    else
      let e := t.foldl (Encoder.pass basic m) { e with delta := e.delta + (m - n) * (e.count + 1) }
      encodeFrom t basic (m + 1) ms { e with delta := e.delta + 1 }

/-- The Punycode of a text. -/
def encode (t : Text) : Text :=
  let basic := t.filter (fun c => c.toNat < 0x80)
  let others := ((t.map Char.toNat).filter (0x80 ≤ ·)).mergeSort (· ≤ ·)
  let start := if basic.isEmpty then [] else basic ++ ['-']
  (encodeFrom t basic.length 0x80 others ⟨start, 0, 72, basic.length⟩).out

/-- A reader of Punycode: the text so far, the last code point and place, the bias, and of the
number being read the value so far, the weight of the next digit and its position. -/
structure Decoder where
  out : Text
  point : Nat := 0x80
  place : Nat := 0
  bias : Nat := 72
  number : Nat := 0
  weight : Nat := 1
  position : Nat := 36

/-- Reads one digit; the last digit of a number inserts a character. -/
def Decoder.read (d : Decoder) (c : Char) : Option Decoder :=
  match value? c with
  | none => none
  | some v =>
    let number := d.number + v * d.weight
    let t := threshold d.position d.bias
    if v < t then
      let size := d.out.length + 1
      let total := d.place + number
      let point := d.point + total / size
      if Nat.isValidChar point then
        some { out := d.out.insertIdx (total % size) (Char.ofNat point)
               point := point
               place := total % size + 1
               bias := adapt number size (d.place = 0) }
      else none
    else some { d with number := number, weight := d.weight * (36 - t), position := d.position + 36 }

def Decoder.readAll (d : Decoder) : Text → Option Decoder
  | [] => some d
  | c :: r => (d.read c).bind (·.readAll r)

/-- The text of a Punycode text. The last hyphen, where there is one, ends the ASCII characters. -/
def decode? (t : Text) : Option Text :=
  let back := t.reverse
  let (basic, rest) :=
    match Text.cut? (· = '-') back with
    | some (rest, basic) => (basic.reverse, rest.reverse)
    | none => ([], t)
  if basic.all (fun c => c.toNat < 0x80) then
    match Decoder.readAll { out := basic } rest with
    | some d => if d.position = 36 then some d.out else none
    | none => none
  else none

end PageTitle.Punycode
