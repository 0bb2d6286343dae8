import Mathlib.Data.List.Chain
import PageTitle.Page
import PageTitle.Proofs.Update.Shape

/-!
# The normal form of a text

`words_eq_iff`: the words of a text are its maximal runs of characters that are not blank, and there is
only one way to find them (`HasWords`). `normalize_canonical`: the normal form has the words of the text and no
blanks but the single spaces between them (`Canonical`). It is the only text of which both is true, so texts
with the same words have the same normal form, and it follows from those of its parts.
-/

namespace PageTitle.Text
variable {a b t : Text} {c d : Char} {ws : List Text}

/-! ### Words as runs -/

/-- A text is blanks, a word up to a blank or the end, and so on: these are its words. -/
inductive HasWords : Text → List Text → Prop
  | blank {t : Text} (ht : blank t = true) : HasWords t []
  | word {b w t : Text} {ws : List Text} (hb : Text.blank b = true) (hw : IsWord w)
      (ht : startsInWord t = false) (h : HasWords t ws) : HasWords (b ++ w ++ t) (w :: ws)

theorem startsInWord_of_blank (h : blank t = true) : startsInWord t = false := by
  rw [Bool.eq_false_iff]
  intro hs
  rw [not_blank_of_startsInWord hs] at h
  cases h

theorem endsInWord_of_blank (h : blank t = true) : endsInWord t = false := by
  rw [Bool.eq_false_iff]
  intro he
  rw [not_blank_of_endsInWord he] at h
  cases h

theorem HasWords.words_eq (h : HasWords t ws) : words t = ws := by
  induction h with
  | blank ht => exact words_eq_nil_iff.mpr ht
  | @word b w t ws hb hw ht _ ih =>
    rw [words_append_of_not_startsInWord _ ht, words_append_of_not_endsInWord (endsInWord_of_blank hb),
      words_eq_nil_iff.mpr hb, words_of_isWord hw, ih]
    rfl

theorem HasWords.cons_blank (hc : isBlank c = true) (h : HasWords t ws) : HasWords (c :: t) ws := by
  cases h with
  | blank ht => exact .blank (by rw [blank_cons, hc, ht]; rfl)
  | @word b w t ws hb hw ht h =>
    exact .word (b := c :: b) (by rw [blank_cons, hc, hb]; rfl) hw ht h

/-- A character before a text that starts with a word belongs to that word. -/
theorem HasWords.cons_glue (hc : isBlank c = false) (hs : startsInWord t = true) (h : HasWords t ws) :
    HasWords (c :: t) (glue [[c]] ws) := by
  cases h with
  | blank ht =>
    rw [startsInWord_of_blank ht] at hs
    cases hs
  | @word b w t ws hb hw ht h =>
    obtain rfl : b = [] := by
      rw [List.append_assoc, startsInWord_append] at hs
      by_contra hn
      rw [if_neg hn, startsInWord_of_blank hb] at hs
      cases hs
    exact .word (b := []) rfl (.cons hc (.inr hw)) ht h

theorem hasWords_words (t : Text) : HasWords t (words t) := by
  induction t with
  | nil => exact .blank rfl
  | cons c t ih =>
    by_cases hc : isBlank c = true
    · rw [words_cons_blank hc]
      exact ih.cons_blank hc
    · simp only [Bool.not_eq_true] at hc
      rw [words_cons_word hc]
      split
      · next hs => exact ih.cons_glue hc hs
      · next hs =>
        exact .word (b := []) (w := [c]) rfl (.cons hc (.inl rfl)) (by simpa using hs) ih

theorem words_eq_iff : words t = ws ↔ HasWords t ws := by
  constructor
  · rintro rfl
    exact hasWords_words t
  · exact HasWords.words_eq

/-! ### Canonical texts -/

/-- The blanks of a text are single spaces, each with something before and behind it. -/
structure Canonical (t : Text) : Prop where
  spaces : ∀ c ∈ t, isBlank c = true → c = ' '
  single : t.IsChain fun c d => ¬ (c = ' ' ∧ d = ' ')
  first : t.head? ≠ some ' '
  last : t.getLast? ≠ some ' '

theorem head?_ne_space (h : startsInWord t = true) : t.head? ≠ some ' ' := by
  intro hs
  rw [startsInWord, hs] at h
  cases h

theorem getLast?_ne_space (h : endsInWord t = true) : t.getLast? ≠ some ' ' := by
  intro hs
  rw [endsInWord, hs] at h
  cases h

theorem IsWord.isChain {w : Text} (hw : IsWord w) : w.IsChain fun c d => ¬ (c = ' ' ∧ d = ' ') := by
  obtain ⟨-, hw⟩ := hw
  induction w with
  | nil => exact .nil
  | cons c w ih =>
    refine .cons (ih fun d hd => hw d (List.mem_cons_of_mem c hd)) fun d _ h => ?_
    have hc := hw c List.mem_cons_self
    rw [h.1, isBlank_space] at hc
    cases hc

/-- Words with one space between neighbours have no two spaces in a row. -/
theorem isChain_unwords (h : ∀ w ∈ ws, IsWord w) :
    (unwords ws).IsChain fun c d => ¬ (c = ' ' ∧ d = ' ') := by
  induction ws with
  | nil => exact .nil
  | cons w ws ih =>
    obtain ⟨hw, hws⟩ := List.forall_mem_cons.mp h
    by_cases hn : ws = []
    · subst hn
      exact hw.isChain
    · have hfirst := head?_ne_space (startsInWord_unwords hn hws)
      have hlast := getLast?_ne_space hw.endsInWord
      rw [unwords_cons hn]
      refine hw.isChain.append ((ih hws).cons fun d hd h => ?_) fun c hc d _ h => ?_
      · exact hfirst (h.2 ▸ hd)
      · exact hlast (h.1 ▸ hc)

theorem canonical_normalize (t : Text) : Canonical (normalize t) := by
  cases h : blank t with
  | true =>
    rw [normalize_of_blank h]
    exact ⟨nofun, .nil, nofun, nofun⟩
  | false =>
    exact ⟨fun c => eq_space_of_mem_normalize, isChain_unwords fun w => isWord_of_mem_words,
      head?_ne_space (startsInWord_normalize h), getLast?_ne_space (endsInWord_normalize h)⟩

namespace Canonical

theorem not_isBlank_first (h : Canonical (c :: t)) : isBlank c = false := by
  rw [Bool.eq_false_iff]
  intro hc
  exact h.first (congrArg some (h.spaces c List.mem_cons_self hc))

theorem tail (h : Canonical (c :: d :: t)) (hd : isBlank d = false) : Canonical (d :: t) where
  spaces e he := h.spaces e (List.mem_cons_of_mem c he)
  single := h.single.tail
  first := by
    rintro ⟨⟩
    cases hd
  last := by
    have := h.last
    rwa [List.getLast?_cons_cons] at this

/-- After the first space of a canonical text stands a canonical text. -/
theorem rest (h : Canonical (c :: ' ' :: t)) : Canonical t ∧ blank t = false := by
  cases t with
  | nil => exact absurd rfl h.last
  | cons d t =>
    have hsingle := (List.isChain_cons_cons.mp h.single.tail).1
    have hd : isBlank d = false := by
      rw [Bool.eq_false_iff]
      intro hd
      exact hsingle ⟨rfl, h.spaces d (by simp) hd⟩
    refine ⟨⟨fun e he => h.spaces e (by simp [he]), h.single.tail.tail, ?_, ?_⟩, ?_⟩
    · rintro ⟨⟩
      cases hd
    · have := h.last
      rwa [List.getLast?_cons_cons, List.getLast?_cons_cons] at this
    · rw [blank_cons, hd]
      rfl

/-- A canonical text is its own normal form. The induction is on the text, from one word's character or
from one space to the next word. -/
theorem normalize_eq : ∀ {t : Text}, Canonical t → normalize t = t
  | [], _ => rfl
  | [c], h => by
    rw [normalize, words_of_isWord (.cons h.not_isBlank_first (.inl rfl))]
    rfl
  | c :: d :: t, h => by
    have hc := h.not_isBlank_first
    by_cases hd : isBlank d = true
    · obtain rfl := h.spaces d (by simp) hd
      obtain ⟨hrest, hn⟩ := h.rest
      have hs : startsInWord (' ' :: t) = false := rfl
      rw [normalize, words_cons_word hc, hs, words_cons_blank hd, if_neg Bool.false_ne_true,
        unwords_cons (words_ne_nil hn)]
      exact congrArg (c :: ' ' :: ·) hrest.normalize_eq
    · simp only [Bool.not_eq_true] at hd
      have hs : startsInWord (d :: t) = true := by rw [startsInWord_cons, hd]; rfl
      rw [normalize, words_cons_word hc, if_pos hs,
        unwords_glue (by simp) (words_ne_nil (not_blank_of_startsInWord hs))]
      exact congrArg (c :: ·) (h.tail hd).normalize_eq

end Canonical

theorem normalize_eq_self_iff : normalize t = t ↔ Canonical t := by
  constructor
  · intro h
    rw [← h]
    exact canonical_normalize t
  · exact Canonical.normalize_eq

/-- Texts have the same normal form if and only if they have the same words. -/
theorem normalize_eq_iff : normalize a = normalize b ↔ words a = words b := by
  refine ⟨fun h => ?_, normalize_congr⟩
  rw [← words_normalize a, h, words_normalize]

/-- The normal form of two texts in a row, blank or not. -/
theorem normalize_append_eq (a b : Text) : normalize (a ++ b) = normalize a ++
    (if blank a = false ∧ blank b = false ∧
      (a.getLast?.any isBlank = true ∨ b.head?.any isBlank = true) then [' '] else []) ++
    normalize b := by
  have hb : normalize b ≠ [] ↔ blank b = false := by
    rw [ne_eq, normalize_eq_nil_iff, Bool.not_eq_true]
  rw [normalize_append_eq_stem, stem_eq, separator]
  simp only [hb]

/-- The normal form of a text is the canonical text with the same words. Writing it to a page changes nothing
in it, and of two texts in a row it is made of the normal forms of both. -/
theorem normalize_canonical (a b : Text) :
    (∀ ws, words a = ws ↔ HasWords a ws) ∧ HasWords (normalize a) (words a) ∧
      Canonical (normalize a) ∧ (normalize a = a ↔ Canonical a) ∧
      normalize (normalize a) = normalize a ∧
      (∀ url title, ((Page.load url title).writeTitle (normalize a)).title = normalize a) ∧
      (normalize a = normalize b ↔ words a = words b) ∧
      normalize (a ++ b) = normalize a ++
        (if blank a = false ∧ blank b = false ∧
          (a.getLast?.any isBlank = true ∨ b.head?.any isBlank = true) then [' '] else []) ++
        normalize b :=
  ⟨fun _ => words_eq_iff, words_eq_iff.mp (words_normalize a), canonical_normalize a,
    normalize_eq_self_iff, normalize_normalize a, fun _ _ => trim_normalize a, normalize_eq_iff,
    normalize_append_eq a b⟩

example : normalize "\t a \u00a0\u2003b\n".toList = "a b".toList := by decide

end PageTitle.Text
