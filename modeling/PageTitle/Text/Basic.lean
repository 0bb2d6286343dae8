/-!
# Text

A title, a format or a message is a list of characters. Blank characters separate words;
`words` lists the maximal runs of other characters and `normalize` joins them by single spaces.
-/

namespace PageTitle

/-- A text is the list of its characters. -/
abbrev Text := List Char

namespace Text

/-- The characters with the Unicode property `White_Space`. -/
def isBlank (c : Char) : Bool :=
  let n := c.toNat
  (9 ≤ n && n ≤ 13) || n == 0x20 || n == 0x85 || n == 0xA0 || n == 0x1680 ||
    (0x2000 ≤ n && n ≤ 0x200A) || n == 0x2028 || n == 0x2029 || n == 0x202F || n == 0x205F ||
    n == 0x3000

theorem isBlank_space : isBlank ' ' = true := rfl

/-- Whether all characters are blank. -/
def blank (t : Text) : Bool := t.all isBlank

/-- The maximal runs of non-blank characters, in order. -/
def words : Text → List Text
  | [] => []
  | c :: r =>
    if isBlank c then words r
    else match r with
      | [] => [[c]]
      | d :: _ =>
        if isBlank d then [c] :: words r
        else match words r with
          | [] => [[c]]
          | w :: ws => (c :: w) :: ws

/-- Words written in a row with one space between neighbours. -/
def unwords : List Text → Text
  | [] => []
  | [w] => w
  | w :: ws => w ++ ' ' :: unwords ws

/-- The words of a text joined by single spaces. -/
def normalize (t : Text) : Text := unwords (words t)

/-- A text without its leading blanks. -/
def trimStart (t : Text) : Text := t.dropWhile isBlank

/-- A text without its trailing blanks. -/
def trimEnd (t : Text) : Text := (t.reverse.dropWhile isBlank).reverse

/-- A text without its leading and trailing blanks. -/
def trim (t : Text) : Text := trimEnd (trimStart t)

/-- What follows `front` in a text that starts with it. -/
def dropFront? : (front t : Text) → Option Text
  | [], t => some t
  | _ :: _, [] => none
  | f :: fs, c :: cs => if f = c then dropFront? fs cs else none

/-- What precedes `back` in a text that ends with it. -/
def dropBack? (back t : Text) : Option Text :=
  (dropFront? back.reverse t.reverse).map List.reverse

/-- Whether `part` occurs in a text. -/
def occursIn (part : Text) : (t : Text) → Bool
  | [] => part.isEmpty
  | c :: r => (dropFront? part (c :: r)).isSome || occursIn part r

/-- The part before the first character that satisfies `p`, and what follows that character. -/
def cut? (p : Char → Bool) : Text → Option (Text × Text)
  | [] => none
  | c :: r => if p c then some ([], r) else (cut? p r).map fun (a, b) => (c :: a, b)

theorem dropFront?_eq_some_iff {front t rest : Text} :
    dropFront? front t = some rest ↔ t = front ++ rest := by
  induction front generalizing t with
  | nil => simp [dropFront?, eq_comm]
  | cons f fs ih =>
    cases t with
    | nil => simp [dropFront?]
    | cons c cs =>
      by_cases h : f = c
      · simp [dropFront?, h, ih]
      · simp [dropFront?, h, Ne.symm h]

theorem dropBack?_eq_some_iff {back t rest : Text} :
    dropBack? back t = some rest ↔ t = rest ++ back := by
  simp only [dropBack?, Option.map_eq_some_iff, dropFront?_eq_some_iff]
  constructor
  · rintro ⟨u, hu, rfl⟩
    simpa using congrArg List.reverse hu
  · rintro rfl
    exact ⟨rest.reverse, by simp, by simp⟩

theorem cut?_eq_some {p : Char → Bool} {t a b : Text} (h : cut? p t = some (a, b)) :
    ∃ c, t = a ++ c :: b ∧ p c = true ∧ ∀ x ∈ a, p x = false := by
  induction t generalizing a with
  | nil => simp [cut?] at h
  | cons c r ih =>
    by_cases hc : p c
    · simp only [cut?, hc, if_true, Option.some.injEq, Prod.mk.injEq] at h
      obtain ⟨rfl, rfl⟩ := h
      exact ⟨c, by simp, hc, by simp⟩
    · simp only [cut?, hc, Bool.false_eq_true, if_false, Option.map_eq_some_iff] at h
      obtain ⟨⟨a', b'⟩, h', heq⟩ := h
      simp only [Prod.mk.injEq] at heq
      obtain ⟨rfl, rfl⟩ := heq
      obtain ⟨d, rfl, hd, hall⟩ := ih h'
      refine ⟨d, by simp, hd, fun x hx => ?_⟩
      rcases List.mem_cons.mp hx with rfl | hx
      · simpa using hc
      · exact hall x hx

theorem length_lt_of_cut? {p : Char → Bool} {t a b : Text} (h : cut? p t = some (a, b)) :
    b.length < t.length := by
  obtain ⟨c, rfl, _⟩ := cut?_eq_some h
  simp; omega

end Text
end PageTitle
