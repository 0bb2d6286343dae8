import PageTitle.Json.Token

/-!
# Strings and numbers in JSON

The grammar of strings and numbers as relations: `WritesText t w` if the characters `w` between quotes
write the text `t`, where any character may be escaped in several ways, and `WritesNumber n w` if `w`
writes the number `n`. `readString_of_writes` and `readNumber_of_writes`: whatever the way of writing,
reading gives back what was written.
-/

namespace PageTitle.Json
variable {c : Char} {t w rest : Text} {n : Nat} {ds : List Nat}

/-! ### Strings -/

/-- Four hexadecimal digits of either case, and their number. -/
inductive WritesCode : Nat → Text → Prop
  | mk {a b c d : Char} {ds : List Nat} (h : [a, b, c, d].mapM (Text.digit? 16) = some ds) :
    WritesCode (Text.ofDigits 16 ds) [a, b, c, d]

/-- The ways to write a character in a string: as it is, by a letter after a backslash, by its code,
or by the codes of a pair that stands for it. -/
inductive WritesChar (c : Char) : Text → Prop
  | raw (hc : 0x20 ≤ c.toNat) (hq : c ≠ '"') (hb : c ≠ '\\') : WritesChar c [c]
  | letter {e : Char} (h : escape? e = some c) : WritesChar c ['\\', e]
  | code {w : Text} (h : WritesCode c.toNat w) : WritesChar c ('\\' :: 'u' :: w)
  | pair {high low : Nat} {v w : Text} (hhigh : isHigh high = true) (hlow : isLow low = true)
      (hc : c.toNat = 0x10000 + (high - 0xD800) * 0x400 + (low - 0xDC00))
      (hv : WritesCode high v) (hw : WritesCode low w) :
    WritesChar c ('\\' :: 'u' :: v ++ '\\' :: 'u' :: w)

/-- A text as it may stand between quotes. -/
inductive WritesText : Text → Text → Prop
  | nil : WritesText [] []
  | cons {c : Char} {t v w : Text} (hc : WritesChar c v) (ht : WritesText t w) :
    WritesText (c :: t) (v ++ w)

theorem not_surrogate (c : Char) : isHigh c.toNat = false ∧ isLow c.toNat = false := by
  have hc : c.toNat < 0xD800 ∨ 0xDFFF < c.toNat ∧ c.toNat < 0x110000 := c.valid
  simp only [isHigh, isLow, Bool.and_eq_false_iff, decide_eq_false_iff_not]
  omega

theorem joinParts_code (c : Char) (parts : List StringPart) :
    joinParts (.code c.toNat :: parts) = (joinParts parts).map (c :: ·) := by
  obtain ⟨hhigh, hlow⟩ := not_surrogate c
  match parts with
  | [] | .char d :: r | .code m :: r => simp [joinParts, hhigh, hlow]

theorem joinParts_pair {high low : Nat} (hhigh : isHigh high = true) (hlow : isLow low = true)
    (hc : c.toNat = 0x10000 + (high - 0xD800) * 0x400 + (low - 0xDC00)) (parts : List StringPart) :
    joinParts (.code high :: .code low :: parts) = (joinParts parts).map (c :: ·) := by
  rw [joinParts, if_pos hhigh, if_pos hlow, ← hc, Char.ofNat_toNat]

theorem readString_code (h : WritesCode n w) (r : Text) : readString ('\\' :: 'u' :: w ++ r) =
    (readString r).map fun (parts, rest) => (.code n :: parts, rest) := by
  obtain ⟨hd⟩ := h
  simp only [List.cons_append, List.nil_append, readString, hd]
  cases readString r <;> rfl

/-- A written character is read as parts that stand for it, whatever follows. -/
theorem readString_char (h : WritesChar c w) : ∃ first : List StringPart,
    (∀ parts, joinParts (first ++ parts) = (joinParts parts).map (c :: ·)) ∧
      ∀ r, readString (w ++ r) =
        (readString r).map fun (parts, rest) => (first ++ parts, rest) := by
  cases h with
  | raw hc hq hb =>
    refine ⟨[.char c], fun parts => rfl, fun r => ?_⟩
    rw [List.singleton_append, readString.eq_5 c r hq (fun _ _ _ _ _ he _ => hb he)
      (fun _ _ he _ => hb he), if_neg (by simpa [hb] using hc)]
    rfl
  | @letter e h =>
    refine ⟨[.char c], fun parts => rfl, fun r => ?_⟩
    have hu : e ≠ 'u' := by
      rintro rfl
      cases h
    rw [List.cons_append, List.singleton_append, readString.eq_4 e r fun _ _ _ _ _ he _ => hu he, h]
    cases readString r <;> rfl
  | code h => exact ⟨[.code c.toNat], joinParts_code c, readString_code h⟩
  | @pair high low v w hhigh hlow hc hv hw =>
    refine ⟨[.code high, .code low], joinParts_pair hhigh hlow hc, fun r => ?_⟩
    rw [List.append_assoc, readString_code hv, readString_code hw, Option.map_map]
    rfl

/-- Reading a string gives back the text that it writes. -/
theorem readString_of_writes (h : WritesText t w) : ∃ parts, joinParts parts = some t ∧
    ∀ rest, readString (w ++ '"' :: rest) = some (parts, rest) := by
  induction h with
  | nil => exact ⟨[], rfl, fun rest => rfl⟩
  | cons hc _ ih =>
    obtain ⟨first, hjoin, hread⟩ := readString_char hc
    obtain ⟨parts, hparts, hrest⟩ := ih
    refine ⟨first ++ parts, by rw [hjoin, hparts]; rfl, fun rest => ?_⟩
    rw [List.append_assoc, hread, hrest]
    rfl

/-! ### Numbers -/

/-- Decimal digits, one at least, and their values. -/
structure WritesDigits (ds : List Nat) (w : Text) : Prop where
  ne_nil : ds ≠ []
  digits : w.mapM (Text.digit? 10) = some ds

/-- The part of a number from the point on. -/
inductive WritesFraction : Option (List Nat) → Text → Prop
  | absent : WritesFraction none []
  | point {ds : List Nat} {w : Text} (h : WritesDigits ds w) : WritesFraction (some ds) ('.' :: w)

/-- The exponent of a number. -/
inductive WritesExponent : Option Int → Text → Prop
  | absent : WritesExponent none []
  | plain {e : Char} {ds : List Nat} {w : Text} (he : e = 'e' ∨ e = 'E') (h : WritesDigits ds w) :
    WritesExponent (some (Text.ofDigits 10 ds)) (e :: w)
  | plus {e : Char} {ds : List Nat} {w : Text} (he : e = 'e' ∨ e = 'E') (h : WritesDigits ds w) :
    WritesExponent (some (Text.ofDigits 10 ds)) (e :: '+' :: w)
  | minus {e : Char} {ds : List Nat} {w : Text} (he : e = 'e' ∨ e = 'E') (h : WritesDigits ds w) :
    WritesExponent (some (-(Text.ofDigits 10 ds))) (e :: '-' :: w)

/-- A number within the limits: only a single digit before the point may be a zero that comes
first. -/
inductive WritesNumber : Number → Text → Prop
  | mk {n : Number} {negative : Bool} {ds : List Nat} {fraction : Option (List Nat)}
      {exponent : Option Int} {u v w : Text} (hw : WritesDigits ds w)
      (hzero : ds.head? = some 0 → ds = [0]) (hu : WritesFraction fraction u)
      (hv : WritesExponent exponent v) (hn : numberOf? negative ds fraction exponent = some n) :
    WritesNumber n ((if negative then ['-'] else []) ++ w ++ u ++ v)

/-- Whether a text does not continue a number that stands in front of it. -/
def EndsNumber (t : Text) : Prop :=
  ∀ c ∈ t.head?, Text.digit? 10 c = none ∧ c ≠ '.' ∧ c ≠ 'e' ∧ c ≠ 'E'

theorem readDigits_append (h : w.mapM (Text.digit? 10) = some ds)
    (hrest : ∀ c ∈ rest.head?, Text.digit? 10 c = none) : readDigits (w ++ rest) = (ds, rest) := by
  induction w generalizing ds with
  | nil =>
    cases h
    cases rest with
    | nil => rfl
    | cons c r => simp [readDigits, hrest c rfl]
  | cons c w ih =>
    rw [List.mapM_cons] at h
    obtain ⟨d, hd, h⟩ := Option.bind_eq_some_iff.mp h
    obtain ⟨ds', hds, h⟩ := Option.bind_eq_some_iff.mp h
    cases h
    simp [readDigits, hd, ih hds]

theorem WritesDigits.read (h : WritesDigits ds w) (hrest : ∀ c ∈ rest.head?, Text.digit? 10 c = none) :
    ∃ d ds', ds = d :: ds' ∧ readDigits (w ++ rest) = (d :: ds', rest) := by
  obtain ⟨d, ds', hds⟩ := List.exists_cons_of_ne_nil h.ne_nil
  exact ⟨d, ds', hds, hds ▸ readDigits_append h.digits hrest⟩

/-- Digits start with one. -/
theorem WritesDigits.head (h : WritesDigits ds w) :
    ∃ c w', w = c :: w' ∧ (Text.digit? 10 c).isSome = true := by
  cases w with
  | nil =>
    cases h.digits
    exact absurd rfl h.ne_nil
  | cons c w =>
    have hd := h.digits
    rw [List.mapM_cons] at hd
    obtain ⟨d, hd, -⟩ := Option.bind_eq_some_iff.mp hd
    exact ⟨c, w, rfl, by rw [hd]; rfl⟩

theorem readFraction_of_writes {fraction : Option (List Nat)} (h : WritesFraction fraction w)
    (hrest : ∀ c ∈ rest.head?, Text.digit? 10 c = none ∧ c ≠ '.') :
    readFraction (w ++ rest) = some (fraction, rest) := by
  cases h with
  | absent =>
    exact readFraction.eq_2 rest fun r he => (hrest '.' (by simp [he])).2 rfl
  | point h =>
    obtain ⟨d, ds, rfl, hread⟩ := h.read fun c hc => (hrest c hc).1
    rw [List.cons_append, readFraction, hread]

theorem readExponent_of_writes {exponent : Option Int} (h : WritesExponent exponent w)
    (hrest : EndsNumber rest) : readExponent (w ++ rest) = some (exponent, rest) := by
  have hd : ∀ c ∈ rest.head?, Text.digit? 10 c = none := fun c hc => (hrest c hc).1
  cases h with
  | absent =>
    cases rest with
    | nil => rfl
    | cons c r =>
      obtain ⟨-, -, he, hE⟩ := hrest c rfl
      simp [readExponent, he, hE]
  | plain he h =>
    obtain ⟨d, ds, rfl, hread⟩ := h.read hd
    obtain ⟨c, w, rfl, hc⟩ := h.head
    have hminus : c ≠ '-' := by
      rintro rfl
      cases hc
    have hplus : c ≠ '+' := by
      rintro rfl
      cases hc
    rw [List.cons_append] at hread ⊢
    rw [List.cons_append, readExponent.eq_3 _ _ (fun r hr => hminus (List.head_eq_of_cons_eq hr))
      (fun r hr => hplus (List.head_eq_of_cons_eq hr)), if_pos (by simpa using he), hread]
    rfl
  | plus he h =>
    obtain ⟨d, ds, rfl, hread⟩ := h.read hd
    rw [List.cons_append, List.cons_append, readExponent, if_pos (by simpa using he)]
    simp [hread]
  | minus he h =>
    obtain ⟨d, ds, rfl, hread⟩ := h.read hd
    rw [List.cons_append, List.cons_append, readExponent, if_pos (by simpa using he)]
    simp [hread]

/-- What follows the digits after the point is no digit and no second point. -/
theorem WritesExponent.head {exponent : Option Int} (h : WritesExponent exponent w)
    (hrest : EndsNumber rest) : ∀ c ∈ (w ++ rest).head?, Text.digit? 10 c = none ∧ c ≠ '.' := by
  cases h with
  | absent => exact fun c hc => ⟨(hrest c hc).1, (hrest c hc).2.1⟩
  | plain he | plus he | minus he =>
    intro c hc
    cases hc
    rcases he with rfl | rfl <;> decide

theorem WritesFraction.head {fraction : Option (List Nat)} (h : WritesFraction fraction w)
    (hrest : ∀ c ∈ rest.head?, Text.digit? 10 c = none ∧ c ≠ '.') :
    ∀ c ∈ (w ++ rest).head?, Text.digit? 10 c = none := by
  cases h with
  | absent => exact fun c hc => (hrest c hc).1
  | point h =>
    intro c hc
    cases hc
    rfl

/-- A number starts with a digit or a sign. -/
theorem WritesNumber.head {n : Number} (h : WritesNumber n w) :
    ∃ c w', w = c :: w' ∧ (c = '-' ∨ (Text.digit? 10 c).isSome = true) := by
  obtain @⟨negative, ds, fraction, exponent, u, v, w, hw, -, -, -, -⟩ := h
  cases negative with
  | true => exact ⟨_, _, rfl, .inl rfl⟩
  | false =>
    obtain ⟨c, w', rfl, hc⟩ := hw.head
    exact ⟨_, _, rfl, .inr hc⟩

/-- Reading a number gives back the number that it writes. -/
theorem readNumber_of_writes {n : Number} (h : WritesNumber n w) (hrest : EndsNumber rest) :
    readNumber (w ++ rest) = some (some n, rest) := by
  obtain @⟨negative, ds, fraction, exponent, u, v, w, hw, hzero, hu, hv, hn⟩ := h
  have hfraction := readFraction_of_writes hu (hv.head hrest)
  have hexponent := readExponent_of_writes hv hrest
  obtain ⟨d, ds, rfl, hdigits⟩ := hw.read (hu.head (hv.head hrest))
  have hminus : ∀ r, w ++ (u ++ (v ++ rest)) ≠ '-' :: r := by
    obtain ⟨c, w', rfl, hc⟩ := hw.head
    intro r he
    obtain rfl : c = '-' := List.head_eq_of_cons_eq he
    cases hc
  simp only [List.append_assoc]
  cases negative
  case' false => rw [if_neg (by simp), List.nil_append, readNumber.eq_2 _ hminus]
  case' true => rw [if_pos rfl, List.singleton_append, readNumber]
  all_goals
    simp only [hdigits]
    split
    · next h => cases h
    · next h =>
      cases h
      cases hzero rfl
    · simp [hfraction, hexponent, hn]

end PageTitle.Json
