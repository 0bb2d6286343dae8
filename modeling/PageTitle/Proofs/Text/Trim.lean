import Mathlib.Data.List.TakeWhile
import PageTitle.Proofs.Text.Words

/-!
# Trimmed texts

Trimming takes blanks off the ends. Those at the start belong to no word, whatever stands behind the text
(`words_trimStart_append`). A text whose ends are words, as those of a normal form are, is trimmed
(`trim_normalize`).
-/

namespace PageTitle.Text
variable {a b t : Text} {c : Char}

/-! ### Leading blanks -/

theorem trimStart_cons_blank (h : isBlank c = true) (t : Text) : trimStart (c :: t) = trimStart t :=
  List.dropWhile_cons_of_pos h

theorem trimStart_of_startsInWord (h : startsInWord t = true) : trimStart t = t := by
  cases t with
  | nil => rfl
  | cons c t => exact List.dropWhile_cons_of_neg (by simpa using h)

theorem trimStart_of_blank (h : blank t = true) : trimStart t = [] :=
  List.dropWhile_eq_nil_iff.mpr (by simpa [blank] using h)

theorem startsInWord_trimStart (h : blank t = false) : startsInWord (trimStart t) = true := by
  induction t with
  | nil => simp at h
  | cons c t ih =>
    by_cases hc : isBlank c = true
    · rw [trimStart_cons_blank hc]
      exact ih (by simpa [blank_cons, hc] using h)
    · have hs : startsInWord (c :: t) = true := by simpa using hc
      rwa [trimStart_of_startsInWord hs]

theorem trimStart_trimStart (t : Text) : trimStart (trimStart t) = trimStart t := by
  cases h : blank t with
  | true => rw [trimStart_of_blank h]; rfl
  | false => exact trimStart_of_startsInWord (startsInWord_trimStart h)

theorem trimStart_append_of_blank (h : blank a = true) (b : Text) :
    trimStart (a ++ b) = trimStart b := by
  induction a with
  | nil => rfl
  | cons c a ih =>
    simp only [blank_cons, Bool.and_eq_true] at h
    rw [List.cons_append, trimStart_cons_blank h.1, ih h.2]

theorem trimStart_append (h : blank a = false) (b : Text) :
    trimStart (a ++ b) = trimStart a ++ b := by
  induction a with
  | nil => simp at h
  | cons c a ih =>
    by_cases hc : isBlank c = true
    · rw [List.cons_append, trimStart_cons_blank hc, trimStart_cons_blank hc]
      exact ih (by simpa [blank_cons, hc] using h)
    · have hs : startsInWord (c :: a) = true := by simpa using hc
      rw [trimStart_of_startsInWord hs, trimStart_of_startsInWord]
      simpa using hc

/-- Blanks that a text loses at its start belong to no word. -/
theorem words_trimStart (t : Text) : words (trimStart t) = words t := by
  induction t with
  | nil => rfl
  | cons c t ih =>
    by_cases hc : isBlank c = true
    · rw [trimStart_cons_blank hc, words_cons_blank hc, ih]
    · have hs : startsInWord (c :: t) = true := by simpa using hc
      rw [trimStart_of_startsInWord hs]

theorem words_trimStart_append (a b : Text) : words (trimStart a ++ b) = words (a ++ b) := by
  cases ha : blank a with
  | true =>
    rw [trimStart_of_blank ha, List.nil_append, ← words_trimStart (a ++ b),
      trimStart_append_of_blank ha, words_trimStart]
  | false => rw [← trimStart_append ha, words_trimStart]

theorem endsInWord_trimStart (t : Text) : endsInWord (trimStart t) = endsInWord t := by
  induction t with
  | nil => rfl
  | cons c t ih =>
    by_cases hc : isBlank c = true
    · rw [trimStart_cons_blank hc, endsInWord_cons, ih]
      by_cases ht : t = [] <;> simp [ht, hc]
    · have hs : startsInWord (c :: t) = true := by simpa using hc
      rw [trimStart_of_startsInWord hs]

/-! ### Trailing blanks -/

theorem trimEnd_of_endsInWord (h : endsInWord t = true) : trimEnd t = t := by
  rw [← List.reverse_reverse t, endsInWord_reverse] at h
  have := trimStart_of_startsInWord h
  rw [trimStart] at this
  rw [trimEnd, this, List.reverse_reverse]

theorem trimEnd_append_of_blank (a : Text) (h : blank b = true) : trimEnd (a ++ b) = trimEnd a := by
  have hb : blank b.reverse = true := by rw [blank, List.all_reverse]; exact h
  have ha := trimStart_append_of_blank hb a.reverse
  rw [trimStart, trimStart] at ha
  rw [trimEnd, List.reverse_append, ha, trimEnd]

/-- A text is its trimmed form with some blanks behind it. -/
theorem exists_trimEnd_append (t : Text) : ∃ b, blank b = true ∧ t = trimEnd t ++ b := by
  refine ⟨(t.reverse.takeWhile isBlank).reverse, ?_, ?_⟩
  · simp only [blank, List.all_reverse]
    exact List.all_takeWhile
  · rw [trimEnd, ← List.reverse_append, List.takeWhile_append_dropWhile, List.reverse_reverse]

/-! ### Both ends -/

theorem trim_of_inWord (hs : startsInWord t = true) (he : endsInWord t = true) : trim t = t := by
  rw [trim, trimStart_of_startsInWord hs, trimEnd_of_endsInWord he]

/-- A normal form is trimmed. -/
theorem trim_normalize (t : Text) : trim (normalize t) = normalize t := by
  cases h : blank t with
  | true => rw [normalize_of_blank h]; rfl
  | false => exact trim_of_inWord (startsInWord_normalize h) (endsInWord_normalize h)

theorem trimStart_trimEnd (t : Text) : trimStart (trimEnd (trimStart t)) = trimEnd (trimStart t) := by
  cases h : blank t with
  | true => rw [trimStart_of_blank h]; rfl
  | false =>
    apply trimStart_of_startsInWord
    obtain ⟨b, hb, ht⟩ := exists_trimEnd_append (trimStart t)
    have hs := startsInWord_trimStart h
    rw [ht, startsInWord_append] at hs
    split at hs
    · rw [not_blank_of_startsInWord hs] at hb; cases hb
    · exact hs

theorem trimStart_trim (t : Text) : trimStart (trim t) = trim t := trimStart_trimEnd t

end PageTitle.Text
