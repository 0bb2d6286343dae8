import PageTitle.Text.Basic

/-!
# The words of texts in a row

`words_append`: two texts in a row have the words of the one and then those of the other, where the
word that ends the first and the one that starts the second are one word if no blank is between
them (`glue`). What `normalize` makes of two texts in a row follows (`normalize_append`), and that it
keeps the words and changes nothing the second time.
-/

namespace PageTitle.Text

/-- Whether a text starts with a word. -/
def startsInWord (t : Text) : Bool := t.head?.any fun c => !isBlank c

/-- Whether a text ends with a word. -/
def endsInWord (t : Text) : Bool := t.getLast?.any fun c => !isBlank c

/-- Two lists of words in a row, with the last word of the first and the first of the second in
one. -/
def glue : List Text → List Text → List Text
  | [], vs => vs
  | [w], [] => [w]
  | [w], v :: vs => (w ++ v) :: vs
  | w :: w' :: ws, vs => w :: glue (w' :: ws) vs

/-- A text that is one word. -/
def IsWord (w : Text) : Prop := w ≠ [] ∧ ∀ c ∈ w, isBlank c = false

variable {a b t : Text} {c : Char}

/-! ### Ends of a text -/

@[simp] theorem startsInWord_nil : startsInWord [] = false := rfl

@[simp] theorem endsInWord_nil : endsInWord [] = false := rfl

@[simp] theorem startsInWord_cons : startsInWord (c :: t) = !isBlank c := by
  simp [startsInWord]

theorem startsInWord_append (a b : Text) :
    startsInWord (a ++ b) = if a = [] then startsInWord b else startsInWord a := by
  cases a <;> simp

theorem endsInWord_append (a b : Text) :
    endsInWord (a ++ b) = if b = [] then endsInWord a else endsInWord b := by
  split
  · next h => simp [h]
  · next h =>
    obtain ⟨c, hc⟩ := Option.ne_none_iff_exists'.mp (mt List.getLast?_eq_none_iff.mp h)
    simp [endsInWord, hc]

theorem endsInWord_cons (c : Char) (t : Text) :
    endsInWord (c :: t) = if t = [] then !isBlank c else endsInWord t := by
  rw [← List.singleton_append, endsInWord_append]
  simp [endsInWord]

theorem endsInWord_reverse (t : Text) : endsInWord t.reverse = startsInWord t := by
  simp [endsInWord, startsInWord]

@[simp] theorem blank_nil : blank [] = true := rfl

theorem blank_cons : blank (c :: t) = (isBlank c && blank t) := rfl

theorem not_blank_of_startsInWord (h : startsInWord t = true) : blank t = false := by
  cases t with
  | nil => simp at h
  | cons c t => simp at h; simp [blank_cons, h]

theorem not_blank_of_endsInWord (h : endsInWord t = true) : blank t = false := by
  rw [← List.reverse_reverse t, endsInWord_reverse] at h
  simpa [blank] using not_blank_of_startsInWord h

/-! ### Words -/

@[simp] theorem words_nil : words [] = [] := rfl

theorem words_cons_blank (h : isBlank c = true) (t : Text) : words (c :: t) = words t := by
  cases t <;> simp [words, h]

theorem words_cons_word (h : isBlank c = false) (t : Text) :
    words (c :: t) = if startsInWord t then glue [[c]] (words t) else [c] :: words t := by
  cases t with
  | nil => simp [words, h]
  | cons d t =>
    rw [words, if_neg (by simp [h])]
    by_cases hd : isBlank d = true
    · simp [hd]
    · simp only [hd, startsInWord_cons]
      cases words (d :: t) <;> simp [glue]

theorem glue_ne_nil {ws : List Text} (h : ws ≠ []) (vs : List Text) : glue ws vs ≠ [] := by
  fun_cases glue ws vs <;> simp_all

theorem words_eq_nil_iff : words t = [] ↔ blank t = true := by
  induction t with
  | nil => simp
  | cons c t ih =>
    by_cases h : isBlank c = true
    · rw [words_cons_blank h, ih, blank_cons, h, Bool.true_and]
    · rw [words_cons_word (by simpa using h), blank_cons]
      split
      · simp [h, glue_ne_nil]
      · simp [h]

theorem words_ne_nil (h : blank t = false) : words t ≠ [] := fun hw => by
  rw [words_eq_nil_iff.mp hw] at h; cases h

/-! ### Words in a row -/

theorem glue_append {ws : List Text} (h : ws ≠ []) (w : Text) (vs : List Text) :
    glue [w] (ws ++ vs) = glue [w] ws ++ vs := by
  obtain ⟨v, ws, rfl⟩ := List.exists_cons_of_ne_nil h
  rfl

theorem glue_cons {ws : List Text} (h : ws ≠ []) (w : Text) (vs : List Text) :
    glue (w :: ws) vs = w :: glue ws vs := by
  obtain ⟨v, ws, rfl⟩ := List.exists_cons_of_ne_nil h
  rfl

theorem glue_glue {ws : List Text} (h : ws ≠ []) (w : Text) (vs : List Text) :
    glue [w] (glue ws vs) = glue (glue [w] ws) vs := by
  match ws, vs with
  | [v], [] => rfl
  | [v], v' :: vs => simp [glue]
  | v :: v' :: ws, vs => rfl

/-- The words of two texts in a row. -/
theorem words_append (a b : Text) :
    words (a ++ b) = if endsInWord a && startsInWord b then glue (words a) (words b)
      else words a ++ words b := by
  induction a with
  | nil => simp
  | cons c a ih =>
    rw [List.cons_append]
    by_cases hc : isBlank c = true
    · rw [words_cons_blank hc, words_cons_blank hc, ih, endsInWord_cons]
      by_cases ha : a = [] <;> simp [ha, hc]
    simp only [Bool.not_eq_true] at hc
    by_cases ha : a = []
    · subst ha
      simp [words_cons_word hc, endsInWord_cons, hc]
    rw [words_cons_word hc, words_cons_word hc, startsInWord_append, if_neg ha, endsInWord_cons,
      if_neg ha, ih]
    by_cases hs : startsInWord a = true
    · -- `c` and the first word of `a` are one word in both rows
      have hw := words_ne_nil (not_blank_of_startsInWord hs)
      simp only [hs, if_true]
      split
      · exact glue_glue hw _ _
      · exact glue_append hw _ _
    · simp only [hs, Bool.false_eq_true, if_false]
      split
      · next h =>
        have he : endsInWord a = true := by simp_all
        exact (glue_cons (words_ne_nil (not_blank_of_endsInWord he)) _ _).symm
      · rfl

theorem words_append_of_not_endsInWord (h : endsInWord a = false) (b : Text) :
    words (a ++ b) = words a ++ words b := by
  rw [words_append, h]; rfl

theorem words_append_of_not_startsInWord (a : Text) (h : startsInWord b = false) :
    words (a ++ b) = words a ++ words b := by
  rw [words_append, h, Bool.and_false]; rfl

theorem words_append_blank (a : Text) (h : blank b = true) : words (a ++ b) = words a := by
  have hb : startsInWord b = false := by
    cases hs : startsInWord b with
    | false => rfl
    | true => rw [not_blank_of_startsInWord hs] at h; cases h
  rw [words_append_of_not_startsInWord a hb, words_eq_nil_iff.mpr h, List.append_nil]

/-- What stands after a text matters to its words only by its own words and by how it starts. -/
theorem words_append_congr_right (a : Text) {b b' : Text} (hw : words b = words b')
    (hs : startsInWord b = startsInWord b') : words (a ++ b) = words (a ++ b') := by
  rw [words_append, words_append, hw, hs]

/-- What stands before a text matters to its words only by its own words and by how it ends. -/
theorem words_append_congr_left {a a' : Text} (hw : words a = words a')
    (he : endsInWord a = endsInWord a') (b : Text) : words (a ++ b) = words (a' ++ b) := by
  rw [words_append, words_append, hw, he]

/-! ### Words and their writing -/

theorem IsWord.startsInWord {w : Text} (h : IsWord w) : startsInWord w = true := by
  obtain ⟨c, w, rfl⟩ := List.exists_cons_of_ne_nil h.1
  simpa using h.2 c (by simp)

theorem IsWord.endsInWord {w : Text} (h : IsWord w) : endsInWord w = true := by
  rw [← List.reverse_reverse w, endsInWord_reverse]
  exact startsInWord ⟨by simpa using h.1, by simpa using h.2⟩

theorem IsWord.cons {w : Text} (hc : isBlank c = false) (h : w = [] ∨ IsWord w) :
    IsWord (c :: w) := by
  refine ⟨by simp, fun d hd => ?_⟩
  rcases List.mem_cons.mp hd with rfl | hd
  · exact hc
  · rcases h with rfl | h
    · simp at hd
    · exact h.2 d hd

theorem isWord_of_mem_words {w : Text} (h : w ∈ words t) : IsWord w := by
  induction t generalizing w with
  | nil => simp at h
  | cons c t ih =>
    by_cases hc : isBlank c = true
    · rw [words_cons_blank hc] at h
      exact ih h
    simp only [Bool.not_eq_true] at hc
    rw [words_cons_word hc] at h
    split at h
    · cases hw : words t with
      | nil =>
        rw [hw] at h
        rw [List.mem_singleton.mp h]
        exact .cons hc (.inl rfl)
      | cons v vs =>
        rw [hw] at h ih
        rcases List.mem_cons.mp h with rfl | h
        · exact .cons hc (.inr (ih (by simp)))
        · exact ih (List.mem_cons_of_mem v h)
    · rcases List.mem_cons.mp h with rfl | h
      · exact .cons hc (.inl rfl)
      · exact ih h

theorem words_of_isWord {w : Text} (h : IsWord w) : words w = [w] := by
  induction w with
  | nil => exact absurd rfl h.1
  | cons c w ih =>
    have hc : isBlank c = false := h.2 c (by simp)
    rw [words_cons_word hc]
    cases w with
    | nil => simp
    | cons d w =>
      have hw : IsWord (d :: w) := ⟨by simp, fun x hx => h.2 x (by simp [hx])⟩
      rw [if_pos hw.startsInWord, ih hw]
      rfl

theorem unwords_cons {ws : List Text} (h : ws ≠ []) (w : Text) :
    unwords (w :: ws) = w ++ ' ' :: unwords ws := by
  obtain ⟨v, ws, rfl⟩ := List.exists_cons_of_ne_nil h
  rfl

theorem unwords_append {ws vs : List Text} (hw : ws ≠ []) (hv : vs ≠ []) :
    unwords (ws ++ vs) = unwords ws ++ ' ' :: unwords vs := by
  induction ws with
  | nil => exact absurd rfl hw
  | cons w ws ih =>
    by_cases h : ws = []
    · subst h; exact unwords_cons hv w
    · simp [unwords_cons, h, ih]

theorem unwords_glue {ws vs : List Text} (hw : ws ≠ []) (hv : vs ≠ []) :
    unwords (glue ws vs) = unwords ws ++ unwords vs := by
  induction ws with
  | nil => exact absurd rfl hw
  | cons w ws ih =>
    by_cases h : ws = []
    · obtain ⟨v, vs, rfl⟩ := List.exists_cons_of_ne_nil hv
      subst h
      cases vs <;> simp [glue, unwords]
    · rw [glue_cons h, unwords_cons (glue_ne_nil h vs), ih h, unwords_cons h]
      simp

theorem words_unwords {ws : List Text} (h : ∀ w ∈ ws, IsWord w) : words (unwords ws) = ws := by
  induction ws with
  | nil => rfl
  | cons w ws ih =>
    have hw : words w = [w] := words_of_isWord (h w (by simp))
    by_cases hn : ws = []
    · subst hn; exact hw
    · rw [unwords_cons hn, words_append_of_not_startsInWord w (by simp [isBlank_space]), hw,
        words_cons_blank isBlank_space, ih fun v hv => h v (by simp [hv])]
      rfl

theorem eq_space_of_mem_unwords {ws : List Text} (h : ∀ w ∈ ws, IsWord w) (hm : c ∈ unwords ws)
    (hc : isBlank c = true) : c = ' ' := by
  induction ws with
  | nil => exact absurd hm List.not_mem_nil
  | cons w ws ih =>
    have hw : c ∉ w := fun hm => by
      have hn := (h w (by simp)).2 c hm
      rw [hc] at hn
      cases hn
    by_cases hn : ws = []
    · subst hn
      exact absurd hm hw
    · rw [unwords_cons hn, List.mem_append, List.mem_cons] at hm
      rcases hm with hm | rfl | hm
      · exact absurd hm hw
      · rfl
      · exact ih (fun v hv => h v (by simp [hv])) hm

/-! ### Normal forms -/

/-- The blanks of a normal form are spaces. -/
theorem eq_space_of_mem_normalize (hm : c ∈ normalize t) (hc : isBlank c = true) : c = ' ' :=
  eq_space_of_mem_unwords (fun _ h => isWord_of_mem_words h) hm hc

theorem words_normalize (t : Text) : words (normalize t) = words t :=
  words_unwords fun _ h => isWord_of_mem_words h

theorem normalize_congr (h : words a = words b) : normalize a = normalize b :=
  congrArg unwords h

theorem normalize_normalize (t : Text) : normalize (normalize t) = normalize t :=
  normalize_congr (words_normalize t)

theorem normalize_of_blank (h : blank t = true) : normalize t = [] := by
  rw [normalize, words_eq_nil_iff.mpr h]; rfl

theorem blank_normalize (t : Text) : blank (normalize t) = blank t := by
  rw [Bool.eq_iff_iff, ← words_eq_nil_iff, words_normalize, words_eq_nil_iff]

theorem normalize_eq_nil_iff : normalize t = [] ↔ blank t = true := by
  refine ⟨fun h => ?_, normalize_of_blank⟩
  rw [← blank_normalize, h]; rfl

theorem startsInWord_unwords {ws : List Text} (hn : ws ≠ []) (h : ∀ w ∈ ws, IsWord w) :
    startsInWord (unwords ws) = true := by
  obtain ⟨w, ws, rfl⟩ := List.exists_cons_of_ne_nil hn
  have hw := h w (by simp)
  by_cases he : ws = []
  · subst he; exact hw.startsInWord
  · rw [unwords_cons he, startsInWord_append, if_neg hw.1]; exact hw.startsInWord

theorem endsInWord_unwords {ws : List Text} (hn : ws ≠ []) (h : ∀ w ∈ ws, IsWord w) :
    endsInWord (unwords ws) = true := by
  induction ws with
  | nil => exact absurd rfl hn
  | cons w ws ih =>
    by_cases he : ws = []
    · subst he; exact (h w (by simp)).endsInWord
    · have hs := ih he fun v hv => h v (by simp [hv])
      have : unwords ws ≠ [] := by rintro hu; simp [hu] at hs
      rw [unwords_cons he, endsInWord_append, if_neg (by simp), endsInWord_cons, if_neg this, hs]

theorem startsInWord_normalize (h : blank t = false) : startsInWord (normalize t) = true :=
  startsInWord_unwords (words_ne_nil h) fun _ hw => isWord_of_mem_words hw

theorem endsInWord_normalize (h : blank t = false) : endsInWord (normalize t) = true :=
  endsInWord_unwords (words_ne_nil h) fun _ hw => isWord_of_mem_words hw

/-- The normal form of two texts in a row, of which neither is blank. -/
theorem normalize_append (ha : blank a = false) (hb : blank b = false) :
    normalize (a ++ b) = normalize a ++
      (if endsInWord a && startsInWord b then [] else [' ']) ++ normalize b := by
  have hwa := words_ne_nil ha
  have hwb := words_ne_nil hb
  rw [normalize, words_append]
  split
  · rw [unwords_glue hwa hwb]; simp [normalize]
  · rw [unwords_append hwa hwb]; simp [normalize]

end PageTitle.Text
