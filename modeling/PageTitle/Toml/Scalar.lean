import PageTitle.Text.Digits
import PageTitle.Text.Split

/-!
# TOML numbers, dates and times

Which words are numbers, dates or times. Their values are not needed, so each form is a test.
-/

namespace PageTitle.Toml

/-- Digits with at most one underscore between neighbours. -/
def digits? (base : Nat) (t : Text) : Option (List Nat) :=
  ((Text.split '_' t).mapM fun (part : Text) =>
    if part.isEmpty then none else part.mapM (Text.digit? base)).map List.flatten

/-- The digits of a whole number, which do not start with a zero unless there is only one. -/
def whole? (t : Text) : Option (List Nat) :=
  match digits? 10 t with
  | some (0 :: _ :: _) => none
  | ds => ds

/-- Whether a word starts with a minus, and the word without its sign. -/
def unsigned : Text → Bool × Text
  | '-' :: r => (true, r)
  | '+' :: r => (false, r)
  | t => (false, t)

/-- The least and the greatest integer. -/
def leastInteger : Int := -9223372036854775808
def greatestInteger : Int := 9223372036854775807

/-- Whether a word is an integer in the decimal system. -/
def isDecimal (t : Text) : Bool :=
  match whole? (unsigned t).2 with
  | some ds =>
    let n : Int := Text.ofDigits 10 ds
    if (unsigned t).1 then leastInteger ≤ -n else n ≤ greatestInteger
  | none => false

/-- Whether a word is an integer in another system. -/
def isRadix : Text → Bool
  | '0' :: r :: t =>
    match (match r with | 'x' => some 16 | 'o' => some 8 | 'b' => some 2 | _ => none) with
    | some base => (digits? base t).any fun ds => Text.ofDigits base ds ≤ greatestInteger
    | none => false
  | _ => false

/-- Whether digits, times a power of ten, are too large for a number in floating point of 64 bits:
half a unit above the greatest one. -/
def overflows (ds : List Nat) (power : Int) : Bool :=
  let n := Text.ofDigits 10 ds
  let bound := Nat.pow 2 1024 - Nat.pow 2 970
  if n = 0 || ds.length + power ≤ 0 then false
  else if power > 309 then true
  else if power < 0 then bound * Nat.pow 10 (-power).toNat ≤ n
  else bound ≤ n * Nat.pow 10 power.toNat

/-- Whether a word is a number with a fraction, an exponent or both that is not too large. A number
below zero can have any size. -/
def isFraction (t : Text) : Bool :=
  let (negative, t) := unsigned t
  let (mantissa, exponent) := match Text.cut? (fun c => c = 'e' || c = 'E') t with
    | some (m, e) => (m, some e)
    | none => (t, none)
  let (whole, fraction) := match Text.cut? (· = '.') mantissa with
    | some (w, f) => (w, some f)
    | none => (mantissa, none)
  let power : Option Int := match exponent with
    | none => some 0
    | some e =>
      let (below, e) := unsigned e
      (digits? 10 e).map fun ds =>
        let n : Int := Text.ofDigits 10 ds
        if below then -n else n
  let places := match fraction with
    | none => some []
    | some f => digits? 10 f
  (fraction.isSome || exponent.isSome) &&
    match whole? whole, places, power with
    | some ds, some fs, some p => negative || !overflows (ds ++ fs) (p - fs.length)
    | _, _, _ => false

/-- Whether a word stands for no number or an infinite one. -/
def isSpecial (t : Text) : Bool :=
  (unsigned t).2 = "inf".toList || (unsigned t).2 = "nan".toList

/-- The number of two digits, and what follows them. -/
def twoDigits? : Text → Option (Nat × Text)
  | a :: b :: r => (Text.number? 10 [a, b]).map (·, r)
  | _ => none

/-- The number of days of a month. -/
def daysOfMonth (year month : Nat) : Nat :=
  if month = 2 then
    if year % 4 = 0 && (year % 100 ≠ 0 || year % 400 = 0) then 29 else 28
  else if month = 4 || month = 6 || month = 9 || month = 11 then 30
  else 31

/-- What follows the date that a word starts with. -/
def afterDate? (t : Text) : Option Text := do
  let (century, t) ← twoDigits? t
  let (year, t) ← twoDigits? t
  let (month, t) ← twoDigits? (← Text.dropFront? ['-'] t)
  let (day, t) ← twoDigits? (← Text.dropFront? ['-'] t)
  if 1 ≤ month && month ≤ 12 && 1 ≤ day && day ≤ daysOfMonth (century * 100 + year) month then some t
  else none

/-- What follows the fraction of a second that a word starts with, if there is one. -/
def afterFraction? : Text → Option Text
  | '.' :: c :: r => if Text.isDigit 10 c then some (r.dropWhile (Text.isDigit 10)) else none
  | ['.'] => none
  | t => some t

/-- What follows the time of day that a word starts with. A minute may have 61 seconds. -/
def afterTime? (t : Text) : Option Text := do
  let (hour, t) ← twoDigits? t
  let (minute, t) ← twoDigits? (← Text.dropFront? [':'] t)
  let (second, t) ← twoDigits? (← Text.dropFront? [':'] t)
  if hour ≤ 23 && minute ≤ 59 && second ≤ 60 then afterFraction? t else none

/-- Whether a word is empty or the distance of a clock from the world's. -/
def isOffset : Text → Bool
  | [] => true
  | ['Z'] => true
  | ['z'] => true
  | c :: t =>
    (c = '+' || c = '-') &&
      match twoDigits? t with
      | some (hour, ':' :: t) =>
        match twoDigits? t with
        | some (minute, []) => hour ≤ 23 && minute ≤ 59
        | _ => false
      | _ => false

/-- Whether a word is a time of day, with or without an offset. -/
def isClock (t : Text) : Bool := (afterTime? t).any isOffset

/-- Whether a word is a date. -/
def isDate (t : Text) : Bool := afterDate? t = some []

/-- Whether a word is a date, a time of day or both. -/
def isMoment (t : Text) : Bool :=
  isDate t || afterTime? t = some [] ||
    match afterDate? t with
    | some (c :: r) => (c = 'T' || c = 't') && isClock r
    | _ => false

/-- Whether a word is a number, a date or a time. -/
def isScalar (t : Text) : Bool :=
  isDecimal t || isRadix t || isFraction t || isSpecial t || isMoment t

end PageTitle.Toml
