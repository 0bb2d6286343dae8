import Mathlib.Data.Nat.Bitwise
import Mathlib.Logic.Function.Iterate
import PageTitle.Pattern.Match

/-!
# What expressions match

`Expr.Matches` says which parts of texts an expression matches, by its constructors alone. `found_iff`: the
search through sets of places finds an expression exactly where it matches some part of the text. Each
function on sets of places goes along the passages of one kind (`GoesAlong`), and those that make up a search do
if their parts do. An unlimited repetition needs no more rounds than the text has characters, since rounds
that match nothing can be left out (`InRow.exists_le_length`).
-/

namespace PageTitle.Pattern

/-- A kind of passages, which are parts of texts with what stands before and behind them. -/
abbrev Passages := (before part after : Text) → Prop

/-- Passages in which no character stands. -/
def Nowhere : Passages := fun _ part _ => part = []

/-- A passage of one kind and, right behind it, one of the other. -/
def Then (r s : Passages) : Passages := fun before part after =>
  ∃ p q, part = p ++ q ∧ r before p (q ++ after) ∧ s (before ++ p) q after

/-- Passages of one kind in a row. -/
def InRow (r : Passages) : Nat → Passages
  | 0 => Nowhere
  | n + 1 => Then r (InRow r n)

/-- The passages that an expression matches. After the least number of repetitions there may be more, up
to the greatest number. -/
def Expr.Matches : Expr Atom → Passages
  | empty => Nowhere
  | atom (.chars s) => fun _ part _ => ∃ c, part = [c] ∧ s.contains c = true
  | atom (.look l) => fun before part after =>
    part = [] ∧ l.holds before.getLast? after.head? = true
  | seq a b => Then a.Matches b.Matches
  | alt a b => fun before part after =>
    a.Matches before part after ∨ b.Matches before part after
  | repeated e min max => fun before part after =>
    ∃ n, (∀ m, max = some m → n ≤ m - min) ∧ InRow e.Matches (min + n) before part after
  | group e => e.Matches

/-- Whether an expression matches somewhere in a text. -/
def Expr.Occurs (e : Expr Atom) (t : Text) : Prop :=
  ∃ before part after, t = before ++ part ++ after ∧ e.Matches before part after

variable {r s : Passages} {f g : Nat → Nat} {t b p a : Text} {m n i j : Nat}

/-! ### Passages in a row -/

theorem nowhere_then (r : Passages) : Then Nowhere r = r := by
  funext b p a
  simp [Then, Nowhere]

theorem then_assoc (r s u : Passages) : Then (Then r s) u = Then r (Then s u) := by
  funext b p a
  simp only [Then, eq_iff_iff]
  constructor
  · rintro ⟨_, q, rfl, ⟨p₁, p₂, rfl, hr, hs⟩, hu⟩
    exact ⟨p₁, p₂ ++ q, by simp, by simpa using hr, p₂, q, rfl, hs, by simpa using hu⟩
  · rintro ⟨p₁, _, rfl, hr, p₂, q, rfl, hs, hu⟩
    exact ⟨p₁ ++ p₂, q, by simp, ⟨p₁, p₂, rfl, by simpa using hr, hs⟩, by simpa using hu⟩

theorem inRow_add (r : Passages) (m n : Nat) : InRow r (m + n) = Then (InRow r m) (InRow r n) := by
  induction m with
  | zero => rw [Nat.zero_add, InRow, nowhere_then]
  | succ m ih => rw [Nat.succ_add, InRow, InRow, ih, then_assoc]

/-- Passages with nothing in them can be left out of a row. -/
theorem InRow.exists_le_length (h : InRow r n b p a) : ∃ k ≤ p.length, InRow r k b p a := by
  induction n generalizing b p with
  | zero => exact ⟨0, Nat.zero_le _, h⟩
  | succ n ih =>
    obtain ⟨p, q, rfl, hr, hrow⟩ := h
    obtain ⟨k, hk, hrow⟩ := ih hrow
    cases p with
    | nil => exact ⟨k, hk, by simpa using hrow⟩
    | cons c p =>
      refine ⟨k + 1, ?_, c :: p, q, rfl, hr, hrow⟩
      simp only [List.cons_append, List.length_cons, List.length_append]
      omega

/-- In a row of passages that may as well be empty, any number of them up to `n` stand. -/
theorem inRow_or_nowhere :
    InRow (fun b p a => Nowhere b p a ∨ r b p a) n b p a ↔ ∃ k ≤ n, InRow r k b p a := by
  induction n generalizing b p with
  | zero => simp [InRow]
  | succ n ih =>
    constructor
    · rintro ⟨p, q, rfl, rfl | hr, hrow⟩
      · obtain ⟨k, hk, hrow⟩ := ih.mp hrow
        exact ⟨k, by omega, by simpa using hrow⟩
      · obtain ⟨k, hk, hrow⟩ := ih.mp hrow
        exact ⟨k + 1, by omega, p, q, rfl, hr, hrow⟩
    · rintro ⟨_ | k, hk, hrow⟩
      · exact ⟨[], p, rfl, .inl rfl, ih.mpr ⟨0, Nat.zero_le _, by simpa using hrow⟩⟩
      · obtain ⟨p, q, rfl, hr, hrow⟩ := hrow
        exact ⟨p, q, rfl, .inr hr, ih.mpr ⟨k, by omega, hrow⟩⟩

/-! ### Places -/

/-- Whether a passage of a text goes from one place to another. -/
def Between (r : Passages) (t : Text) (i j : Nat) : Prop :=
  ∃ before part after, t = before ++ part ++ after ∧ before.length = i ∧
    (before ++ part).length = j ∧ r before part after

theorem Between.le_length (h : Between r t i j) : j ≤ t.length := by
  obtain ⟨before, part, after, rfl, -, rfl, -⟩ := h
  simp

theorem between_nowhere : Between Nowhere t i j ↔ i = j ∧ i ≤ t.length := by
  constructor
  · rintro ⟨before, part, after, rfl, rfl, rfl, rfl⟩
    simp
  · rintro ⟨rfl, hi⟩
    have hlen : (t.take i).length = i := List.length_take_of_le hi
    exact ⟨t.take i, [], t.drop i, by simp, hlen, by simpa using hlen, rfl⟩

theorem between_then : Between (Then r s) t i j ↔ ∃ k, Between r t i k ∧ Between s t k j := by
  constructor
  · rintro ⟨before, _, after, rfl, rfl, rfl, p, q, rfl, hr, hs⟩
    exact ⟨(before ++ p).length, ⟨before, p, q ++ after, by simp, rfl, rfl, hr⟩,
      before ++ p, q, after, by simp, rfl, by simp, hs⟩
  · rintro ⟨k, ⟨before, p, rest, rfl, rfl, hk, hr⟩, before', q, after, ht, hk', rfl, hs⟩
    rw [List.append_assoc before' q after] at ht
    obtain ⟨rfl, rfl⟩ := List.append_inj ht (hk.trans hk'.symm)
    exact ⟨before, p ++ q, after, by simp, rfl, by simp, p, q, rfl, hr, hs⟩

/-- Whether all places of a set are places of a text. -/
def Within (t : Text) (m : Nat) : Prop := ∀ i, m.testBit i = true → i ≤ t.length

/-- Whether a function on sets of places goes along the passages of a kind. -/
def GoesAlong (t : Text) (r : Passages) (f : Nat → Nat) : Prop :=
  ∀ m, Within t m → ∀ j, (f m).testBit j = true ↔ ∃ i, m.testBit i = true ∧ Between r t i j

namespace GoesAlong

theorem within (h : GoesAlong t r f) (hm : Within t m) : Within t (f m) := by
  intro j hj
  obtain ⟨i, -, hij⟩ := (h m hm j).mp hj
  exact hij.le_length

theorem congr (h : GoesAlong t r f) (hrs : ∀ b p a, t = b ++ p ++ a → (r b p a ↔ s b p a)) :
    GoesAlong t s f := by
  intro m hm j
  rw [h m hm j]
  refine exists_congr fun i => and_congr_right fun _ => ?_
  refine exists_congr fun b => exists_congr fun p => exists_congr fun a => ?_
  exact and_congr_right fun ht => and_congr_right fun _ => and_congr_right fun _ => hrs b p a ht

theorem nowhere : GoesAlong t Nowhere id := by
  intro m hm j
  simp only [between_nowhere, id]
  constructor
  · intro hj
    exact ⟨j, hj, rfl, hm j hj⟩
  · rintro ⟨i, hi, rfl, -⟩
    exact hi

theorem comp (hf : GoesAlong t r f) (hg : GoesAlong t s g) : GoesAlong t (Then r s) (g ∘ f) := by
  intro m hm j
  rw [Function.comp_apply, hg _ (hf.within hm)]
  simp only [hf m hm, between_then]
  constructor
  · rintro ⟨k, ⟨i, hi, hik⟩, hkj⟩
    exact ⟨i, hi, k, hik, hkj⟩
  · rintro ⟨i, hi, k, hik, hkj⟩
    exact ⟨k, ⟨i, hi, hik⟩, hkj⟩

theorem or (hf : GoesAlong t r f) (hg : GoesAlong t s g) :
    GoesAlong t (fun b p a => r b p a ∨ s b p a) fun m => f m ||| g m := by
  intro m hm j
  rw [Nat.testBit_or, Bool.or_eq_true, hf m hm, hg m hm, ← exists_or]
  refine exists_congr fun i => ?_
  rw [← and_or_left]
  refine and_congr_right fun _ => ?_
  simp only [Between, and_or_left, exists_or]

theorem iterate (hf : GoesAlong t r f) : ∀ n, GoesAlong t (InRow r n) f^[n]
  | 0 => nowhere
  | n + 1 => hf.comp (hf.iterate n)

end GoesAlong

/-! ### Repetitions -/

theorem repeatTimes_eq_iterate (f : Nat → Nat) (n m : Nat) : repeatTimes f n m = f^[n] m := by
  induction n generalizing m with
  | zero => rfl
  | succ n ih =>
    rw [repeatTimes]
    split
    · next h => exact (Function.iterate_fixed h (n + 1)).symm
    · exact ih (f m)

theorem repeatUpTo_eq_iterate (f : Nat → Nat) (n m : Nat) :
    repeatUpTo f n m = (fun m => m ||| f m)^[n] m := by
  induction n generalizing m with
  | zero => rfl
  | succ n ih =>
    rw [repeatUpTo]
    split
    · next h => exact (Function.iterate_fixed (f := fun m => m ||| f m) h (n + 1)).symm
    · exact ih (m ||| f m)

/-- The numbers of repetitions that a search tries are enough. -/
theorem exists_inRow_iff {min length : Nat} {max : Option Nat} (h : p.length ≤ length) :
    (∃ k ≤ (max.map (· - min)).getD (length + 1), InRow r k b p a) ↔
      ∃ n, (∀ m, max = some m → n ≤ m - min) ∧ InRow r n b p a := by
  cases max with
  | none =>
    constructor
    · rintro ⟨k, -, hrow⟩
      exact ⟨k, nofun, hrow⟩
    · rintro ⟨n, -, hrow⟩
      obtain ⟨k, hk, hrow⟩ := hrow.exists_le_length
      exact ⟨k, by simp only [Option.map_none, Option.getD_none]; omega, hrow⟩
  | some max => simp

theorem GoesAlong.repeated (hf : GoesAlong t r f) (min : Nat) (max : Option Nat) :
    GoesAlong t
      (fun b p a => ∃ n, (∀ m, max = some m → n ≤ m - min) ∧ InRow r (min + n) b p a)
      fun m => repeatUpTo f ((max.map (· - min)).getD (t.length + 1)) (repeatTimes f min m) := by
  simp only [repeatTimes_eq_iterate, repeatUpTo_eq_iterate]
  have hmore := (GoesAlong.nowhere.or hf).iterate ((max.map (· - min)).getD (t.length + 1))
  refine ((hf.iterate min).comp hmore).congr fun b p a ht => ?_
  have hlen : p.length ≤ t.length := by simp [ht]; omega
  simp only [inRow_add]
  constructor
  · rintro ⟨p₁, p₂, rfl, hmin, hrow⟩
    rw [List.length_append] at hlen
    obtain ⟨n, hn, hrow⟩ := (exists_inRow_iff (by omega)).mp (inRow_or_nowhere.mp hrow)
    exact ⟨n, hn, p₁, p₂, rfl, hmin, hrow⟩
  · rintro ⟨n, hn, p₁, p₂, rfl, hmin, hrow⟩
    rw [List.length_append] at hlen
    exact ⟨p₁, p₂, rfl, hmin,
      inRow_or_nowhere.mpr ((exists_inRow_iff (by omega)).mpr ⟨n, hn, hrow⟩)⟩

/-! ### Atoms -/

theorem testBit_toNat_add_zero (x : Bool) (m : Nat) : (x.toNat + 2 * m).testBit 0 = x := by
  rw [Nat.add_comm, ← Nat.bit_val, Nat.testBit_bit_zero]

theorem testBit_toNat_add_succ (x : Bool) (m i : Nat) :
    (x.toNat + 2 * m).testBit (i + 1) = m.testBit i := by
  rw [Nat.add_comm, ← Nat.bit_val, Nat.testBit_bit_succ]

theorem testBit_placesBefore {p : Char → Bool} : (placesBefore p t).testBit i = true ↔
    ∃ b c a, t = b ++ c :: a ∧ b.length = i ∧ p c = true := by
  induction t generalizing i with
  | nil => simp [placesBefore]
  | cons d t ih =>
    rw [placesBefore]
    cases i with
    | zero =>
      rw [testBit_toNat_add_zero]
      constructor
      · intro hd
        exact ⟨[], d, t, rfl, rfl, hd⟩
      · rintro ⟨b, c, a, ht, hb, hc⟩
        obtain rfl := List.length_eq_zero_iff.mp hb
        cases ht
        exact hc
    | succ i =>
      rw [testBit_toNat_add_succ, ih]
      constructor
      · rintro ⟨b, c, a, rfl, rfl, hc⟩
        exact ⟨d :: b, c, a, rfl, rfl, hc⟩
      · rintro ⟨_ | ⟨e, b⟩, c, a, ht, hb, hc⟩
        · cases hb
        · cases ht
          exact ⟨b, c, a, rfl, Nat.succ.inj hb, hc⟩

theorem testBit_placesBetween_zero (p : Option Char → Option Char → Bool) (x : Option Char)
    (t : Text) : (placesBetween p x t).testBit 0 = p x t.head? := by
  cases t with
  | nil => exact testBit_toNat_add_zero (p x none) 0
  | cons d t => exact testBit_toNat_add_zero (p x (some d)) _

theorem getLast?_cons_or (d : Char) (b : Text) (x : Option Char) :
    (d :: b).getLast?.or x = b.getLast?.or (some d) := by
  rw [List.getLast?_cons]
  cases b.getLast? <;> rfl

theorem testBit_placesBetween {p : Option Char → Option Char → Bool} {x : Option Char} :
    (placesBetween p x t).testBit i = true ↔
      ∃ b a, t = b ++ a ∧ b.length = i ∧ p (b.getLast?.or x) a.head? = true := by
  induction i generalizing t x with
  | zero =>
    rw [testBit_placesBetween_zero]
    constructor
    · intro h
      exact ⟨[], t, rfl, rfl, h⟩
    · rintro ⟨b, a, rfl, hb, h⟩
      obtain rfl := List.length_eq_zero_iff.mp hb
      exact h
  | succ i ih =>
    cases t with
    | nil =>
      have hbit : (placesBetween p x []).testBit (i + 1) = false := by
        rw [← Nat.zero_testBit i]
        exact testBit_toNat_add_succ (p x none) 0 i
      rw [hbit]
      constructor
      · nofun
      · rintro ⟨b, a, ht, hb, -⟩
        obtain ⟨rfl, rfl⟩ := List.append_eq_nil_iff.mp ht.symm
        cases hb
    | cons d t =>
      rw [placesBetween, testBit_toNat_add_succ, ih]
      constructor
      · rintro ⟨b, a, rfl, rfl, h⟩
        exact ⟨d :: b, a, rfl, rfl, by rwa [getLast?_cons_or]⟩
      · rintro ⟨_ | ⟨e, b⟩, a, ht, hb, h⟩
        · cases hb
        · cases ht
          rw [getLast?_cons_or] at h
          exact ⟨b, a, rfl, Nat.succ.inj hb, h⟩

theorem between_chars {s : CharSet} : Between (Expr.atom (.chars s)).Matches t i j ↔
    i + 1 = j ∧ ∃ b c a, t = b ++ c :: a ∧ b.length = i ∧ s.contains c = true := by
  constructor
  · rintro ⟨b, _, a, rfl, rfl, rfl, c, rfl, hc⟩
    exact ⟨by simp, b, c, a, by simp, rfl, hc⟩
  · rintro ⟨rfl, b, c, a, rfl, rfl, hc⟩
    exact ⟨b, [c], a, by simp, rfl, by simp, c, rfl, hc⟩

theorem between_look {l : Look} : Between (Expr.atom (.look l)).Matches t i j ↔
    i = j ∧ ∃ b a, t = b ++ a ∧ b.length = i ∧ l.holds b.getLast? a.head? = true := by
  constructor
  · rintro ⟨b, _, a, rfl, rfl, rfl, rfl, hl⟩
    exact ⟨by simp, b, a, by simp, rfl, hl⟩
  · rintro ⟨rfl, b, a, rfl, rfl, hl⟩
    exact ⟨b, [], a, by simp, rfl, by simp, rfl, hl⟩

theorem goesAlong_atom (t : Text) (x : Atom) :
    GoesAlong t (Expr.atom x).Matches (Move.ofAtom t x).run := by
  intro m _ j
  cases x with
  | chars s =>
    simp only [Move.ofAtom, Move.run, Nat.testBit_shiftLeft, Nat.testBit_and, Bool.and_eq_true,
      decide_eq_true_eq, testBit_placesBefore, between_chars]
    constructor
    · rintro ⟨hj, hm, hs⟩
      exact ⟨j - 1, hm, Nat.sub_add_cancel hj, hs⟩
    · rintro ⟨i, hm, rfl, hs⟩
      exact ⟨Nat.le_add_left 1 i, hm, hs⟩
  | look l =>
    simp only [Move.ofAtom, Move.run, Nat.testBit_and, Bool.and_eq_true, testBit_placesBetween,
      Option.or_none, between_look]
    constructor
    · rintro ⟨hm, hl⟩
      exact ⟨j, hm, rfl, hl⟩
    · rintro ⟨i, hm, rfl, hl⟩
      exact ⟨hm, hl⟩

/-! ### Searches -/

theorem goesAlong_run (t : Text) (e : Expr Atom) :
    GoesAlong t e.Matches ((e.map (Move.ofAtom t)).run t.length) := by
  induction e with
  | empty => exact .nowhere
  | atom x => exact goesAlong_atom t x
  | seq x y hx hy => exact hx.comp hy
  | alt x y hx hy => exact hx.or hy
  | repeated e min max he => exact he.repeated min max
  | group e he => exact he

/-- A search finds an expression if and only if it matches somewhere in the text. -/
theorem found_iff (e : Expr Atom) (t : Text) : e.found t = true ↔ e.Occurs t := by
  have hall (i : Nat) : (Nat.pow 2 (t.length + 1) - 1).testBit i = true ↔ i ≤ t.length := by
    rw [Nat.pow_eq, Nat.testBit_two_pow_sub_one, decide_eq_true_eq, Nat.lt_succ_iff]
  have hrun := goesAlong_run t e _ fun i => (hall i).mp
  rw [Expr.found, decide_eq_true_eq]
  constructor
  · intro hne
    obtain ⟨j, hj⟩ := Nat.exists_testBit_of_ne_zero hne
    obtain ⟨i, -, before, part, after, ht, -, -, hmatch⟩ := (hrun j).mp hj
    exact ⟨before, part, after, ht, hmatch⟩
  · rintro ⟨before, part, after, ht, hmatch⟩ h
    have hi : before.length ≤ t.length := by simp [ht]
    have hj := (hrun (before ++ part).length).mpr
      ⟨before.length, (hall _).mpr hi, before, part, after, ht, rfl, rfl, hmatch⟩
    rw [h, Nat.zero_testBit] at hj
    cases hj

end PageTitle.Pattern
