import PageTitle.Proofs.Text.Words
import PageTitle.Text.Digits
import PageTitle.Text.Split

/-!
# Texts of visible characters

A text of the ASCII characters between the space and the delete character. Such texts hold no blank, so
they are their own normal forms (`normalize_of_visible`). Numbers in their digits are written so.
-/

namespace PageTitle.Text

/-- Whether a character is one of ASCII that can be seen. -/
abbrev VisibleChar (c : Char) : Prop := 0x20 < c.toNat ∧ c.toNat < 0x7F

/-- Whether all characters of a text can be seen. -/
def Visible (t : Text) : Prop := ∀ c ∈ t, VisibleChar c

instance (t : Text) : Decidable (Visible t) := List.decidableBAll VisibleChar t

variable {a b t : Text} {c : Char}

theorem visible_nil : Visible [] := nofun

theorem visible_cons : Visible (c :: t) ↔ VisibleChar c ∧ Visible t :=
  List.forall_mem_cons

theorem visible_append : Visible (a ++ b) ↔ Visible a ∧ Visible b := List.forall_mem_append

theorem visible_flatMap {α : Type} {f : α → Text} {l : List α} :
    Visible (l.flatMap f) ↔ ∀ x ∈ l, Visible (f x) := by
  constructor
  · intro h x hx c hc
    exact h c (List.mem_flatMap.mpr ⟨x, hx, hc⟩)
  · intro h c hc
    obtain ⟨x, hx, hc⟩ := List.mem_flatMap.mp hc
    exact h x hx c hc

theorem visible_joinWith {sep : Text} (hsep : Visible sep) {parts : List Text}
    (h : ∀ p ∈ parts, Visible p) : Visible (joinWith sep parts) := by
  fun_induction joinWith sep parts with
  | case1 => exact visible_nil
  | case2 p => exact h p List.mem_cons_self
  | case3 p parts _ ih =>
    obtain ⟨hp, hparts⟩ := List.forall_mem_cons.mp h
    rw [visible_append, visible_append]
    exact ⟨⟨hp, hsep⟩, ih hparts⟩

theorem visible_joinWith_map {sep : Text} (hsep : Visible sep) {α : Type} {f : α → Text} {l : List α}
    (h : ∀ x ∈ l, Visible (f x)) : Visible (joinWith sep (l.map f)) :=
  visible_joinWith hsep (List.forall_mem_map.mpr h)

theorem not_isBlank_of_visible (h : VisibleChar c) : isBlank c = false := by
  simp only [isBlank, Bool.or_eq_false_iff, Bool.and_eq_false_iff, beq_eq_false_iff_ne,
    decide_eq_false_iff_not]
  omega

/-- A text of visible characters is empty or one word. -/
theorem normalize_of_visible (h : Visible t) : normalize t = t := by
  by_cases hn : t = []
  · subst hn
    rfl
  · have hw : IsWord t := ⟨hn, fun c hc => not_isBlank_of_visible (h c hc)⟩
    rw [normalize, words_of_isWord hw]
    rfl

theorem toNat_of_isDigit {c : Char} (h : isDigit 10 c = true) :
    48 ≤ c.toNat ∧ c.toNat ≤ 57 := by
  obtain ⟨d, hd⟩ := Option.isSome_iff_exists.mp h
  simp only [digit?, Option.ite_none_right_eq_some, Bool.and_eq_true, decide_eq_true_eq] at hd
  obtain ⟨hd, -⟩ := hd
  split at hd
  · assumption
  · split at hd
    · omega
    · split at hd <;> omega

theorem visible_toDigits {base : Nat} (h : 1 < base) (h' : base ≤ 16) (n : Nat) :
    Visible (Nat.toDigits base n) := by
  have hdigit : ∀ d < 16, Visible [d.digitChar] := by decide
  induction n using Nat.strongRecOn with
  | ind n ih =>
    rw [Nat.toDigits_eq_if h]
    split
    · exact hdigit n (by omega)
    · next hn =>
      have hlt : n / base < n := Nat.div_lt_self (by omega) h
      have hmod : n % base < base := Nat.mod_lt n (by omega)
      rw [visible_append]
      exact ⟨ih _ hlt, hdigit _ (by omega)⟩

theorem visible_decimal (n : Nat) : Visible (decimal n) := visible_toDigits (by omega) (by omega) n

theorem visible_hexadecimal (n : Nat) : Visible (hexadecimal n) :=
  visible_toDigits (by omega) (by omega) n

end PageTitle.Text
