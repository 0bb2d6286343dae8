import PageTitle.Toml.Printer
import PageTitle.Toml.Quoted

/-!
# Strings that are written and read

`readString?_printString`: whatever form a text is written in, reading gives it back, up to what follows
the closing quotes. Basic forms hold every text, because each character that cannot stand as it is has an
escape (`escape_or_plain`). In a string over several lines single quotes stand as they are; three of them
in a row end it, and the last two before its end belong to it.
-/

namespace PageTitle.Toml
variable {c q : Char} {run : Nat} {w t r rest : Text}

/-! ### Escapes -/

/-- The escapes of a character. -/
inductive Escape (c : Char) : Text → Prop
  | letter {e : Char} (h : escaped? e = some c) : Escape c ['\\', e]
  | code {a b d e : Char} (h : escapedCode? [a, b, d, e] = some c) : Escape c ['\\', 'u', a, b, d, e]

theorem escapedCode?_codeDigits (h : c.toNat < 128) : escapedCode? (codeDigits c.toNat) = some c := by
  have hd : ∀ n < 128, escapedCode? (codeDigits n) = some (Char.ofNat n) := by decide
  rw [hd _ h, Char.ofNat_toNat]

theorem plain_of_not_isControl (h : isControl c = false) : isPlain c = true ∨ c = '\n' := by
  simp only [isControl, Bool.or_eq_false_iff, Bool.and_eq_false_iff, decide_eq_false_iff_not] at h
  simp only [isPlain, Bool.or_eq_true, Bool.and_eq_true, decide_eq_true_eq]
  by_cases hn : c = '\n'
  · exact .inr hn
  by_cases ht : c = '\t'
  · exact .inl (.inl ht)
  · simp only [ne_eq, ht, hn, not_false_eq_true, not_true_eq_false, or_false] at h
    exact .inl (.inr ⟨by omega, h.2⟩)

/-- A character other than a quote is escaped, or may stand in a string. -/
theorem escape_or_plain (c : Char) :
    (∃ w, escapeOf? c = some w ∧ Escape c w) ∨
      escapeOf? c = none ∧ c ≠ '\\' ∧ (isPlain c = true ∨ c = '\n') := by
  unfold escapeOf?
  split
  · next h => exact .inl ⟨_, rfl, .letter (by rw [h]; rfl)⟩
  split
  · next h => exact .inl ⟨_, rfl, .letter (by rw [h]; rfl)⟩
  split
  · next h => exact .inl ⟨_, rfl, .letter (by rw [← Char.ofNat_toNat c, h]; rfl)⟩
  split
  · next h => exact .inl ⟨_, rfl, .letter (by rw [← Char.ofNat_toNat c, h]; rfl)⟩
  split
  · next h =>
    refine .inl ⟨_, rfl, .code (escapedCode?_codeDigits ?_)⟩
    simp only [isControl, Bool.or_eq_true, Bool.and_eq_true, decide_eq_true_eq] at h
    omega
  · next hb _ _ _ h =>
    exact .inr ⟨rfl, hb, plain_of_not_isControl (Bool.eq_false_iff.mpr h)⟩

/-- The letter of an escape starts no code and is no blank. -/
theorem not_blank_of_escaped? {e : Char} (h : escaped? e = some c) :
    e ≠ 'u' ∧ e ≠ 'U' ∧ e ≠ ' ' ∧ e ≠ '\t' ∧ e ≠ '\n' ∧ e ≠ '\r' := by
  refine ⟨?_, ?_, ?_, ?_, ?_, ?_⟩ <;> rintro rfl <;> cases h

/-! ### Basic strings -/

theorem readBasic_escape (h : Escape c w) (r : Text) :
    readBasic (w ++ r) = withChar c (readBasic r) := by
  cases h with
  | letter h =>
    obtain ⟨hu, hU, -⟩ := not_blank_of_escaped? h
    rw [List.cons_append, List.cons_append, List.nil_append, readBasic.eq_5 _ _
      (fun _ _ _ _ _ he _ => hu he) (fun _ _ _ _ _ _ _ _ _ he _ => hU he), h]
    rfl
  | code h => simp only [List.cons_append, List.nil_append, readBasic, h]; rfl

theorem readBasic_plain (h : isPlain c = true) (hq : c ≠ '"') (hb : c ≠ '\\') (r : Text) :
    readBasic (c :: r) = withChar c (readBasic r) := by
  rw [readBasic.eq_6 c r hq (fun _ _ _ _ _ he _ => hb he)
    (fun _ _ _ _ _ _ _ _ _ he _ => hb he) (fun _ _ he _ => hb he), if_pos (by simp [h, hb])]

theorem readBasic_basicBody (t rest : Text) :
    readBasic (basicBody t ++ '"' :: rest) = some (t, rest) := by
  induction t with
  | nil => rfl
  | cons c t ih =>
    have hc : basicBody (c :: t) = (if c = '"' then ['\\', '"'] else if c = '\n' then ['\\', 'n']
        else if c = '\t' then ['\\', 't'] else (escapeOf? c).getD [c]) ++ basicBody t := rfl
    have step {w : Text} (h : Escape c w) :
        readBasic (w ++ basicBody t ++ '"' :: rest) = some (c :: t, rest) := by
      rw [List.append_assoc, readBasic_escape h, ih]
      rfl
    rw [hc]
    split
    · next h => exact step (.letter (by rw [h]; rfl))
    split
    · next h => exact step (.letter (by rw [h]; rfl))
    split
    · next h => exact step (.letter (by rw [h]; rfl))
    · next hq hn _ =>
      rcases escape_or_plain c with ⟨w, hw, he⟩ | ⟨hw, hb, hp | rfl⟩
      · rw [hw]
        exact step he
      · rw [hw, Option.getD_none, List.cons_append, List.cons_append, List.nil_append,
          readBasic_plain hp hq hb, ih]
        rfl
      · exact absurd rfl hn

/-! ### Literal strings -/

theorem le_longestRun (q : Char) (run : Nat) (t : Text) : run ≤ longestRun q run t := by
  induction t generalizing run with
  | nil => exact Nat.le_refl _
  | cons c t ih =>
    rw [longestRun]
    split
    · exact Nat.le_trans (Nat.le_succ run) (ih _)
    · exact Nat.le_max_left ..

theorem not_mem_of_longestRun (h : longestRun q run t = 0) : q ∉ t := by
  induction t generalizing run with
  | nil => exact List.not_mem_nil
  | cons c t ih =>
    rw [longestRun] at h
    split at h
    · have := le_longestRun q (run + 1) t
      omega
    · next hc =>
      have ht : longestRun q 0 t = 0 := Nat.le_zero.mp (Nat.le_trans (Nat.le_max_right ..) (Nat.le_of_eq h))
      exact List.not_mem_cons_of_ne_of_not_mem (Ne.symm hc) (ih ht)

theorem readLiteral_append (hq : '\'' ∉ t) (hp : ∀ c ∈ t, isPlain c = true) (rest : Text) :
    readLiteral (t ++ '\'' :: rest) = some (t, rest) := by
  induction t with
  | nil => rfl
  | cons c t ih =>
    rw [List.mem_cons, not_or] at hq
    rw [List.cons_append, readLiteral, if_neg (Ne.symm hq.1), if_pos (hp c List.mem_cons_self),
      ih hq.2 fun d hd => hp d (List.mem_cons_of_mem c hd)]
    rfl

/-! ### The end of a string over several lines -/

theorem readQuotes_zero (h : rest.head? ≠ some q) : readQuotes q rest = ([], rest) := by
  match rest with
  | [] => rfl
  | [a] | a :: b :: r =>
    have ha : a ≠ q := fun ha => h (congrArg some ha)
    simp [readQuotes, ha]

theorem readQuotes_one (h : rest.head? ≠ some q) : readQuotes q (q :: rest) = ([q], rest) := by
  match rest with
  | [] => simp [readQuotes]
  | a :: r =>
    have ha : a ≠ q := fun ha => h (congrArg some ha)
    simp [readQuotes, ha]

theorem readQuotes_two (q : Char) (rest : Text) :
    readQuotes q (q :: q :: rest) = ([q, q], rest) := by
  simp [readQuotes]

/-! ### Basic strings over several lines -/

theorem readBasicLines_escape (h : Escape c w) (r : Text) :
    readBasicLines false (w ++ r) = withChar c (readBasicLines false r) := by
  cases h with
  | @letter e h =>
    obtain ⟨hu, hU, hs, ht, hn, hr⟩ := not_blank_of_escaped? h
    have hend : atLineEnd (e :: r) = false := by
      rw [atLineEnd.eq_3 e r (fun he => hn he) (fun _ he _ => hr he)]
      simp [hs, ht]
    rw [List.cons_append, List.cons_append, List.nil_append, readBasicLines.eq_5 _ _ _
      (fun _ _ _ _ _ he _ => hu he) (fun _ _ _ _ _ _ _ _ _ he _ => hU he), hend, h]
    rfl
  | code h => simp only [List.cons_append, List.nil_append, readBasicLines, h]; rfl

/-- A character that does not start the end of a string. -/
theorem readBasicLines_plain (hp : isPlain c = true ∨ c = '\n') (hb : c ≠ '\\')
    (hq : c = '"' → ∀ r', r ≠ '"' :: '"' :: r') :
    readBasicLines false (c :: r) = withChar c (readBasicLines false r) := by
  have hr : c ≠ '\r' := by
    rintro rfl
    revert hp
    decide
  rw [readBasicLines.eq_7 false c r (fun r' hc => hq hc r') (fun _ _ _ _ _ he _ => hb he)
    (fun _ _ _ _ _ _ _ _ _ he _ => hb he) (fun _ _ he _ => hb he) (fun _ he _ => hr he),
    if_neg (by simp), if_pos (by simpa [hb] using hp)]

/-- What is written for a text starts with an escape or with the text's first character, which is
then no third quote. -/
theorem head_basicLinesBody {d : Char} {s : Text} (h : basicLinesBody run (c :: t) ++ s = d :: r) :
    d = '\\' ∨ d = c ∧ (isPlain c = true ∨ c = '\n') ∧ (c = '"' → run ≠ 2) := by
  rw [basicLinesBody] at h
  split at h
  · next hc =>
    split at h
    · exact .inl (List.head_eq_of_cons_eq h).symm
    · next hrun =>
      exact .inr ⟨(List.head_eq_of_cons_eq h).symm.trans hc.symm, .inl (hc ▸ rfl), fun _ => hrun⟩
  split at h
  · exact .inl (List.head_eq_of_cons_eq h).symm
  · next hc _ =>
    rcases escape_or_plain c with ⟨w, hw, he⟩ | ⟨hw, -, hp⟩
    · rw [hw] at h
      cases he <;> exact .inl (List.head_eq_of_cons_eq h).symm
    · rw [hw] at h
      exact .inr ⟨(List.head_eq_of_cons_eq h).symm, hp, fun hq => absurd hq hc⟩

theorem basicLinesBody_ne_quote (h : c ≠ '"' ∨ run = 2) (t s r : Text) :
    basicLinesBody run (c :: t) ++ s ≠ '"' :: r := by
  intro he
  rcases head_basicLinesBody he with hd | ⟨hc, -, hrun⟩
  · cases hd
  · exact h.elim (fun hne => hne hc.symm) (hrun hc.symm)

/-- The induction is on the text. After a quote stands the end, or one more quote and the end, or what
is not two quotes, as a third one is written as an escape. -/
theorem readBasicLines_body (hr : rest.head? ≠ some '"') (t : Text) (hrun : run ≤ 2) :
    readBasicLines false (basicLinesBody run t ++ '"' :: '"' :: '"' :: rest) = some (t, rest) := by
  induction t generalizing run with
  | nil => exact congrArg some (readQuotes_zero hr)
  | cons c t ih =>
    have escape {w : Text} (h : Escape c w) : readBasicLines false
        (w ++ basicLinesBody 0 t ++ '"' :: '"' :: '"' :: rest) = some (c :: t, rest) := by
      rw [List.append_assoc, readBasicLines_escape h, ih (Nat.zero_le 2)]
      rfl
    have plain (hp : isPlain c = true ∨ c = '\n') (hb : c ≠ '\\') {n : Nat} (hn : n ≤ 2)
        (hq : c = '"' → ∀ r, basicLinesBody n t ++ '"' :: '"' :: '"' :: rest ≠ '"' :: '"' :: r) :
        readBasicLines false (c :: basicLinesBody n t ++ '"' :: '"' :: '"' :: rest) =
          some (c :: t, rest) := by
      rw [List.cons_append, readBasicLines_plain hp hb hq, ih hn]
      rfl
    rw [basicLinesBody]
    split
    · next hc =>
      split
      · exact escape (w := ['\\', '"']) (.letter (by rw [hc]; rfl))
      · next hrun' =>
        subst hc
        have quote := plain (.inl rfl) (by decide) (n := run + 1) (by omega)
        cases t with
        | nil => exact congrArg some (readQuotes_one hr)
        | cons d t =>
          by_cases hd : d = '"' ∧ run = 0
          · obtain ⟨rfl, rfl⟩ := hd
            cases t with
            | nil => exact congrArg some (readQuotes_two '"' rest)
            | cons e t =>
              exact quote fun _ r he => basicLinesBody_ne_quote (c := e) (.inr rfl) t
                ('"' :: '"' :: '"' :: rest) r (List.tail_eq_of_cons_eq he)
          · have hd' : d ≠ '"' ∨ run + 1 = 2 :=
              (Decidable.not_and_iff_or_not.mp hd).imp_right fun hne => by omega
            exact quote fun _ r he => basicLinesBody_ne_quote hd' t _ _ he
    split
    · next hc => exact escape (w := ['\\', 't']) (.letter (by rw [hc]; rfl))
    · next hq _ =>
      rcases escape_or_plain c with ⟨w, hw, he⟩ | ⟨hw, hb, hp⟩
      · rw [hw]
        exact escape he
      · rw [hw]
        exact plain hp hb (Nat.zero_le 2) fun hc => absurd hc hq

/-! ### Literal strings over several lines -/

theorem readLiteralLines_plain (hp : isPlain c = true ∨ c = '\n')
    (hq : c = '\'' → ∀ r', r ≠ '\'' :: '\'' :: r') :
    readLiteralLines (c :: r) = withChar c (readLiteralLines r) := by
  have hr : c ≠ '\r' := by
    rintro rfl
    revert hp
    decide
  rw [readLiteralLines.eq_4 c r (fun r' hc => hq hc r') (fun _ he _ => hr he),
    if_pos (by simpa using hp)]

theorem readLiteralLines_append (hr : rest.head? ≠ some '\'')
    (hp : ∀ c ∈ t, isPlain c = true ∨ c = '\n') (hrun : longestRun '\'' run t ≤ 2) :
    readLiteralLines (t ++ '\'' :: '\'' :: '\'' :: rest) = some (t, rest) := by
  induction t generalizing run with
  | nil => exact congrArg some (readQuotes_zero hr)
  | cons c t ih =>
    have step (n : Nat) (hn : longestRun '\'' n t ≤ 2)
        (hq : c = '\'' → ∀ r, t ++ '\'' :: '\'' :: '\'' :: rest ≠ '\'' :: '\'' :: r) :
        readLiteralLines (c :: t ++ '\'' :: '\'' :: '\'' :: rest) = some (c :: t, rest) := by
      rw [List.cons_append, readLiteralLines_plain (hp c List.mem_cons_self) hq,
        ih (fun d hd => hp d (List.mem_cons_of_mem c hd)) hn]
      rfl
    rw [longestRun] at hrun
    split at hrun
    · next hc =>
      subst hc
      cases t with
      | nil => exact congrArg some (readQuotes_one hr)
      | cons d t =>
        by_cases hd : d = '\''
        · subst hd
          cases t with
          | nil => exact congrArg some (readQuotes_two '\'' rest)
          | cons e t =>
            refine step _ hrun fun _ r he => ?_
            obtain rfl : e = '\'' := List.head_eq_of_cons_eq (List.tail_eq_of_cons_eq he)
            have := le_longestRun '\'' (run + 1 + 1 + 1) t
            rw [longestRun, if_pos rfl, longestRun, if_pos rfl] at hrun
            omega
        · exact step _ hrun fun _ r he => hd (List.head_eq_of_cons_eq he)
    · next hc => exact step 0 (Nat.le_trans (Nat.le_max_right ..) hrun) fun he => absurd he hc

/-! ### Strings in the form that is selected -/

theorem Quoting.of_literal (h : Quoting.of t = .literal) :
    (∀ c ∈ t, isPlain c = true) ∧ '\'' ∉ t := by
  have hq : t.any isControl = false ∧ longestRun '\'' 0 t = 0 ∧ t.any (· = '\n') = false := by
    grind [Quoting.of]
  simp only [List.any_eq_false, decide_eq_true_eq] at hq
  exact ⟨fun c hc => (plain_of_not_isControl (Bool.eq_false_iff.mpr (hq.1 c hc))).resolve_right
    (hq.2.2 c hc), not_mem_of_longestRun hq.2.1⟩

theorem Quoting.of_literalLines (h : Quoting.of t = .literalLines) :
    (∀ c ∈ t, isPlain c = true ∨ c = '\n') ∧ longestRun '\'' 0 t ≤ 2 := by
  have hq : t.any isControl = false ∧ longestRun '\'' 0 t ≤ 2 := by
    grind [Quoting.of]
  simp only [List.any_eq_false] at hq
  exact ⟨fun c hc => plain_of_not_isControl (Bool.eq_false_iff.mpr (hq.1 c hc)), hq.2⟩

/-- The line end after the opening is there when the text starts with another one. -/
theorem dropLineEnd_leadingLineEnd
    (h : ∀ d r, w = d :: r → isPlain d = true ∨ d = '\n' ∧ '\n' ∈ t) :
    dropLineEnd (leadingLineEnd t ++ w) = w := by
  unfold leadingLineEnd
  split
  · rfl
  · next hn =>
    refine dropLineEnd.eq_3 w (fun r hw => ?_) fun r hw => ?_
    · rcases h _ _ hw with hp | ⟨-, ht⟩
      · cases hp
      · exact hn (by simpa using ht)
    · rcases h _ _ hw with hp | ⟨he, -⟩
      · cases hp
      · cases he

theorem readString?_printString (hb : rest.head? ≠ some '"') (hl : rest.head? ≠ some '\'')
    (t : Text) : readString? (printString t ++ rest) = some (t, rest) := by
  unfold printString
  split
  · have hread := readBasic_basicBody t rest
    rw [List.append_assoc, List.cons_append, List.singleton_append, readString?.eq_3 _ ?_ (by simp)]
    · exact hread
    · intro r he
      rw [List.tail_eq_of_cons_eq he, readBasic] at hread
      cases hread
      exact hb rfl
  · next h =>
    obtain ⟨hp, hq⟩ := Quoting.of_literal h
    have hread := readLiteral_append hq hp rest
    rw [List.append_assoc, List.cons_append, List.singleton_append, readString?.eq_3 _ (by simp) ?_]
    · exact hread
    · intro r he
      rw [List.tail_eq_of_cons_eq he, readLiteral, if_pos rfl] at hread
      cases hread
      exact hl rfl
  · simp only [List.cons_append, List.append_assoc, List.nil_append, readString?]
    rw [dropLineEnd_leadingLineEnd, readBasicLines_body hb t (Nat.zero_le 2)]
    intro d r hw
    cases t with
    | nil => exact .inl (by rw [← List.head_eq_of_cons_eq hw]; rfl)
    | cons c t =>
      rcases head_basicLinesBody hw with rfl | ⟨rfl, hp | rfl, -⟩
      · exact .inl rfl
      · exact .inl hp
      · exact .inr ⟨rfl, List.mem_cons_self⟩
  · next h =>
    obtain ⟨hp, hq⟩ := Quoting.of_literalLines h
    simp only [List.cons_append, List.append_assoc, List.nil_append, readString?]
    rw [dropLineEnd_leadingLineEnd, readLiteralLines_append hl hp hq]
    intro d r hw
    cases t with
    | nil => exact .inl (by rw [← List.head_eq_of_cons_eq hw]; rfl)
    | cons c t =>
      obtain rfl : c = d := List.head_eq_of_cons_eq hw
      exact (hp c List.mem_cons_self).imp_right fun hn => ⟨hn, hn ▸ List.mem_cons_self⟩

end PageTitle.Toml
