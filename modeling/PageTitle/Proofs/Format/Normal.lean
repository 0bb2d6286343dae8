import PageTitle.Proofs.Format.Tracking

/-!
# Normalized formats

No placeholder holds a blank. A format is therefore substituted word by word (`words_substitute`): the
blanks between its words part the words of what these become, whichever blanks they are, and a word may
become many words or none. So a format renders as its normal form does (`render_normalize`).
-/

namespace PageTitle

theorem Tag.isBlank_of_mem_placeholder (tag : Tag) :
    ∀ c ∈ tag.placeholder, Text.isBlank c = false := by
  have hall : tag.placeholder.all (fun c => !Text.isBlank c) = true := by cases tag <;> rfl
  intro c hc
  simpa using List.all_eq_true.mp hall c hc

namespace Format
variable {a : Text} {c : Char}

theorem blank_notMem_tail_placeholder (h : Text.isBlank c = true) (tag : Tag) :
    c ∉ tag.placeholder.tail := by
  intro hm
  have hn := tag.isBlank_of_mem_placeholder c (List.mem_of_mem_tail hm)
  rw [h] at hn
  cases hn

/-- A blank of a format stays, and what stands around it is substituted apart. -/
theorem substitute_append_blank (env : Environment) (h : Text.isBlank c = true) (a r : Text) :
    substitute env (a ++ c :: r) = substitute env a ++ c :: substitute env r := by
  have hopen : c ≠ '{' := by
    rintro rfl
    cases h
  have hr : substitute env (c :: r) = c :: substitute env r := by
    rw [substitute, if_neg hopen]
  rw [substitute_append env (blank_notMem_tail_placeholder h), hr]

theorem words_substitute_of_notBlank (env : Environment) (ha : ∀ d ∈ a, Text.isBlank d = false) :
    Text.words (substitute env a) =
      (Text.words a).flatMap fun w => Text.words (substitute env w) := by
  by_cases hn : a = []
  · subst hn
    rw [substitute]
    rfl
  · rw [Text.words_of_isWord ⟨hn, ha⟩, List.flatMap_singleton]

/-- The words that a format makes are those that its words make, in a row. -/
theorem words_substitute (env : Environment) (format : Text) :
    Text.words (substitute env format) =
      (Text.words format).flatMap fun w => Text.words (substitute env w) := by
  -- `a` is what was read of the word that the rest of the format may go on with
  suffices h : ∀ a, (∀ d ∈ a, Text.isBlank d = false) →
      Text.words (substitute env (a ++ format)) =
        (Text.words (a ++ format)).flatMap fun w => Text.words (substitute env w) from h [] nofun
  induction format with
  | nil =>
    intro a ha
    rw [List.append_nil]
    exact words_substitute_of_notBlank env ha
  | cons c r ih =>
    intro a ha
    cases hc : Text.isBlank c with
    | true =>
      have hpart : ∀ x y : Text, Text.words (x ++ c :: y) = Text.words x ++ Text.words y := by
        intro x y
        rw [Text.words_append_of_not_startsInWord x (by simp [hc]), Text.words_cons_blank hc]
      have hr := ih [] nofun
      rw [List.nil_append] at hr
      rw [substitute_append_blank env hc, hpart, hpart, List.flatMap_append,
        words_substitute_of_notBlank env ha, hr]
    | false =>
      have hac : ∀ d ∈ a ++ [c], Text.isBlank d = false := by
        intro d hd
        rcases List.mem_append.mp hd with hd | hd
        · exact ha d hd
        · rw [List.mem_singleton.mp hd, hc]
      have hr := ih (a ++ [c]) hac
      rwa [List.append_assoc] at hr

theorem render_normalize (format : Text) (env : Environment) :
    render (Text.normalize format) env = render format env := by
  refine Text.normalize_congr ?_
  rw [words_substitute, Text.words_normalize, ← words_substitute]

end Format
end PageTitle
