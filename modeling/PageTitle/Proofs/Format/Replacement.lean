import PageTitle.Proofs.Format.Tracking

/-!
# Substitution replaces all placeholders at once

A placeholder occurs where the format goes on with the name of a tag in braces, whatever braces stand
around it. Occurrences do not overlap, so each position of a format becomes one thing when all of them are
replaced (`replacement`), and `substitute` is these in a row (`substitute_simultaneous`). It is also where
a scanner ends that goes from one opening brace to the next (`Scan`), in at most one turn for each.
-/

namespace PageTitle
namespace Format
variable {format a r : Text} {tag tag' : Tag} {i j : Nat}

/-- Whether the placeholder of a tag stands at a position of a format. -/
def Occurs (format : Text) (i : Nat) (tag : Tag) : Prop := tag.placeholder <+: format.drop i

instance : Decidable (Occurs format i tag) :=
  inferInstanceAs (Decidable (tag.placeholder <+: format.drop i))

/-- The tag whose placeholder stands at a position. -/
def occurrence? (format : Text) (i : Nat) : Option Tag := Tag.all.find? (Occurs format i ·)

/-- Whether a position is in a placeholder that starts before it. -/
def Inside (format : Text) (i : Nat) : Prop :=
  ∃ j < i, ∃ tag ∈ Tag.all, Occurs format j tag ∧ i < j + tag.placeholder.length

instance : Decidable (Inside format i) :=
  inferInstanceAs (Decidable (∃ j < i, ∃ tag ∈ Tag.all,
    Occurs format j tag ∧ i < j + tag.placeholder.length))

/-- What a position becomes when all placeholders are replaced at once: the value of a tag whose
placeholder starts there, nothing further on in a placeholder, and else the character that it has. -/
def replacement (env : Environment) (format : Text) (i : Nat) : Text :=
  match occurrence? format i with
  | some tag => tag.value env
  | none => if Inside format i then [] else format[i]?.toList

/-! ### Occurrences -/

/-- A longer name is not taken for a shorter one that it starts with. -/
theorem Occurs.unique (h : Occurs format i tag) (h' : Occurs format i tag') : tag = tag' := by
  obtain ⟨r, hr⟩ := h
  obtain ⟨r', hr'⟩ := h'
  have hn : tag.name ++ '}' :: r = tag'.name ++ '}' :: r' := by
    simpa [Tag.placeholder, Tag.braced] using hr.trans hr'.symm
  have ht := tagAt?_placeholder tag r
  rw [hn, tagAt?_placeholder] at ht
  cases ht
  rfl

theorem occurrence?_eq_some_iff : occurrence? format i = some tag ↔ Occurs format i tag := by
  constructor
  · intro h
    simpa using List.find?_some h
  · intro h
    cases hf : occurrence? format i with
    | none =>
      have := List.find?_eq_none.mp hf tag tag.mem_all
      simp [h] at this
    | some tag' =>
      have h' : Occurs format i tag' := by simpa using List.find?_some hf
      rw [h.unique h']

theorem Occurs.getElem? (h : Occurs format i tag) {k : Nat} (hk : k < tag.placeholder.length) :
    format[i + k]? = tag.placeholder[k]? := by
  obtain ⟨r, hr⟩ := h
  rw [← List.getElem?_drop, ← hr, List.getElem?_append_left hk]

theorem length_placeholder_pos (tag : Tag) : 0 < tag.placeholder.length := Nat.succ_pos _

/-- The next placeholder starts behind the end of one: there is no opening brace within. -/
theorem Occurs.end_le (h : Occurs format i tag) (h' : Occurs format j tag') (hij : i < j) :
    i + tag.placeholder.length ≤ j := by
  refine Nat.le_of_not_lt fun hlt => ?_
  obtain ⟨k, rfl⟩ : ∃ k, j = i + (k + 1) := ⟨j - i - 1, by omega⟩
  have hopen : format[i + (k + 1)]? = some '{' := h'.getElem? (length_placeholder_pos tag')
  rw [h.getElem? (by omega), ← List.getElem?_tail] at hopen
  exact tag.open_notMem_tail_placeholder (List.mem_of_getElem? hopen)

theorem occurs_open_iff : Occurs ('{' :: r) 0 tag ↔ ∃ rest, tagAt? r = some (tag, rest) := by
  constructor
  · rintro ⟨rest, hr⟩
    have hr : r = tag.name ++ '}' :: rest := by simpa [Tag.placeholder, Tag.braced] using hr.symm
    exact ⟨rest, hr ▸ tagAt?_placeholder tag rest⟩
  · rintro ⟨rest, h⟩
    exact ⟨rest, (eq_of_tagAt? h).symm⟩

theorem not_occurs_of_ne {c : Char} (h : c ≠ '{') : ¬ Occurs (c :: r) 0 tag := by
  rintro ⟨rest, hr⟩
  exact h (List.cons_eq_cons.mp hr).1.symm

/-! ### A format front to back -/

/-- Whether a part at the front of a format ends where no placeholder goes on. -/
def Closed (a r : Text) : Prop :=
  ∀ j < a.length, ∀ tag, Occurs (a ++ r) j tag → j + tag.placeholder.length ≤ a.length

theorem occurs_append (a r : Text) (k : Nat) :
    Occurs (a ++ r) (a.length + k) tag ↔ Occurs r k tag := by
  have hd : (a ++ r).drop (a.length + k) = r.drop k := by simp [List.drop_append]
  rw [Occurs, hd, Occurs]

theorem occurrence?_append (a r : Text) (k : Nat) :
    occurrence? (a ++ r) (a.length + k) = occurrence? r k := by
  simp only [occurrence?, occurs_append]

theorem inside_append (h : Closed a r) (k : Nat) :
    Inside (a ++ r) (a.length + k) ↔ Inside r k := by
  constructor
  · rintro ⟨j, hj, tag, ht, ho, hin⟩
    by_cases hja : j < a.length
    · have := h j hja tag ho
      omega
    · obtain ⟨m, rfl⟩ : ∃ m, j = a.length + m := ⟨j - a.length, by omega⟩
      exact ⟨m, by omega, tag, ht, (occurs_append a r m).mp ho, by omega⟩
  · rintro ⟨j, hj, tag, ht, ho, hin⟩
    exact ⟨a.length + j, by omega, tag, ht, (occurs_append a r j).mpr ho, by omega⟩

/-- All positions of a format, replaced at once. -/
def replaced (env : Environment) (format : Text) : Text :=
  (List.range format.length).flatMap (replacement env format)

/-- What follows a closed part of a format is replaced as it would be alone. -/
theorem replaced_append (env : Environment) (h : Closed a r) : replaced env (a ++ r) =
    (List.range a.length).flatMap (replacement env (a ++ r)) ++ replaced env r := by
  have hk (k : Nat) : replacement env (a ++ r) (a.length + k) = replacement env r k := by
    have hi := inside_append h k
    have hc : (a ++ r)[a.length + k]? = r[k]? := by simp [List.getElem?_append_right]
    rw [replacement, replacement, occurrence?_append]
    simp only [hi, hc]
  rw [replaced, List.length_append, List.range_add, List.flatMap_append, List.flatMap_map, replaced]
  simp only [hk]

theorem replaced_cons (env : Environment) {c : Char} (h : ∀ tag, ¬ Occurs (c :: r) 0 tag) :
    replaced env (c :: r) = c :: replaced env r := by
  have hclosed : Closed [c] r := by
    intro j hj tag ho
    obtain rfl : j = 0 := by simpa using hj
    exact absurd ho (h tag)
  have hn : occurrence? (c :: r) 0 = none := by
    cases ho : occurrence? (c :: r) 0 with
    | none => rfl
    | some tag => exact absurd (occurrence?_eq_some_iff.mp ho) (h tag)
  have hfront : replacement env (c :: r) 0 = [c] := by
    rw [replacement, hn]
    rfl
  have := replaced_append env hclosed
  simpa [hfront] using this

theorem replaced_placeholder (env : Environment) (tag : Tag) (r : Text) :
    replaced env (tag.placeholder ++ r) = tag.value env ++ replaced env r := by
  have hzero : Occurs (tag.placeholder ++ r) 0 tag := ⟨r, rfl⟩
  have hclosed : Closed tag.placeholder r := by
    intro j hj tag' ho
    cases j with
    | zero => simp [ho.unique hzero]
    | succ j =>
      have := hzero.end_le ho (Nat.succ_pos j)
      omega
  have hfront : replacement env (tag.placeholder ++ r) 0 = tag.value env := by
    rw [replacement, occurrence?_eq_some_iff.mpr hzero]
  have hrest : ∀ j, j + 1 < tag.placeholder.length →
      replacement env (tag.placeholder ++ r) (j + 1) = [] := by
    intro j hj
    have hn : occurrence? (tag.placeholder ++ r) (j + 1) = none := by
      cases ho : occurrence? (tag.placeholder ++ r) (j + 1) with
      | none => rfl
      | some tag' =>
        have := hzero.end_le (occurrence?_eq_some_iff.mp ho) (Nat.succ_pos j)
        omega
    have hin : Inside (tag.placeholder ++ r) (j + 1) :=
      ⟨0, Nat.succ_pos j, tag, tag.mem_all, hzero, by omega⟩
    rw [replacement, hn]
    exact if_pos hin
  rw [replaced_append env hclosed]
  congr 1
  obtain ⟨n, hn⟩ : ∃ n, tag.placeholder.length = n + 1 := ⟨_, rfl⟩
  rw [hn, List.range_succ_eq_map, List.flatMap_cons, hfront, List.flatMap_map]
  have htail : (List.range n).flatMap (fun j => replacement env (tag.placeholder ++ r) (j + 1)) = [] := by
    refine List.flatMap_eq_nil_iff.mpr fun j hj => hrest j ?_
    have := List.mem_range.mp hj
    omega
  exact (congrArg _ htail).trans (List.append_nil _)

/-- The walk along a format finds each placeholder where it occurs. -/
theorem substitute_eq_replaced (env : Environment) (format : Text) :
    substitute env format = replaced env format := by
  fun_induction substitute env format with
  | case1 => rfl
  | case2 r tag rest ht ih => rw [eq_of_tagAt? ht, replaced_placeholder, ih]
  | case3 r ht ih =>
    rw [replaced_cons env fun tag ho => ?_, ih]
    obtain ⟨rest, hr⟩ := occurs_open_iff.mp ho
    rw [ht] at hr
    cases hr
  | case4 c r hc ih => rw [replaced_cons env fun tag => not_occurs_of_ne hc, ih]

/-! ### The scanner -/

/-- A scanner of a format: what it has written, and what it has still to read. -/
structure Scan where
  out : Text
  rest : Text

namespace Scan
variable {s s' : Scan}

/-- One turn: what stands before the next opening brace is copied, and the brace is one of a placeholder
or is copied too. After the last opening brace there is no turn. -/
def turn? (env : Environment) (s : Scan) : Option Scan :=
  (Text.cut? (· = '{') s.rest).map fun (before, r) =>
    match tagAt? r with
    | some (tag, rest) => ⟨s.out ++ before ++ tag.value env, rest⟩
    | none => ⟨s.out ++ before ++ ['{'], r⟩

/-- A number of turns in a row. -/
def turns? (env : Environment) : Nat → Scan → Option Scan
  | 0, s => some s
  | n + 1, s => (s.turn? env).bind (turns? env n)

/-- What is written in the end if the walk goes on from here. -/
def result (env : Environment) (s : Scan) : Text := s.out ++ substitute env s.rest

/-- A turn reads an opening brace and keeps the result. -/
theorem of_turn? {env : Environment} (h : s.turn? env = some s') :
    s'.result env = s.result env ∧ s'.rest.count '{' < s.rest.count '{' := by
  simp only [turn?, Option.map_eq_some_iff] at h
  obtain ⟨⟨a, r⟩, hcut, hs⟩ := h
  obtain ⟨c, hrest, hc, ha⟩ := Text.cut?_eq_some hcut
  obtain rfl : c = '{' := by simpa using hc
  have ha : '{' ∉ a := fun hm => by simpa using ha _ hm
  have hcount : s.rest.count '{' = r.count '{' + 1 := by
    rw [hrest, List.count_append, List.count_cons_self, List.count_eq_zero.mpr ha]
    omega
  cases ht : tagAt? r with
  | some p =>
    obtain ⟨tag, rest⟩ := p
    have hr := eq_of_tagAt? ht
    obtain rfl : ⟨s.out ++ a ++ tag.value env, rest⟩ = s' := by simpa [ht] using hs
    constructor
    · simp [result, hrest, substitute_append_of_notMem env ha, hr, substitute_placeholder]
    · have hle := congrArg (List.count '{') hr
      rw [List.count_cons_self, List.count_append] at hle
      have : 0 < tag.placeholder.count '{' := List.count_pos_iff.mpr List.mem_cons_self
      show rest.count '{' < s.rest.count '{'
      omega
  | none =>
    obtain rfl : ⟨s.out ++ a ++ ['{'], r⟩ = s' := by simpa [ht] using hs
    constructor
    · simp [result, hrest, substitute_append_of_notMem env ha, substitute_open_of_none env ht]
    · show r.count '{' < s.rest.count '{'
      omega

theorem cut?_eq_none {p : Char → Bool} {t : Text} (h : Text.cut? p t = none) :
    ∀ c ∈ t, p c = false := by
  induction t with
  | nil => nofun
  | cons c t ih =>
    by_cases hc : p c = true
    · simp [Text.cut?, hc] at h
    · simp only [Text.cut?, hc, Bool.false_eq_true, if_false, Option.map_eq_none_iff] at h
      intro d hd
      rcases List.mem_cons.mp hd with rfl | hd
      · simpa using hc
      · exact ih h d hd

/-- Where there is no turn, nothing is left to replace. -/
theorem result_of_turn?_eq_none {env : Environment} (h : s.turn? env = none) :
    s.result env = s.out ++ s.rest := by
  have ha : '{' ∉ s.rest := fun hm => by
    have := cut?_eq_none (Option.map_eq_none_iff.mp h) _ hm
    simp at this
  have := substitute_append_of_notMem env ha []
  rw [List.append_nil, substitute, List.append_nil] at this
  rw [result, this]

/-- From anywhere, the scanner ends after at most one turn for each opening brace. -/
theorem exists_turns? (env : Environment) (s : Scan) : ∃ n ≤ s.rest.count '{', ∃ s',
    turns? env n s = some s' ∧ s'.turn? env = none ∧ s'.out ++ s'.rest = s.result env := by
  induction hn : s.rest.count '{' using Nat.strongRecOn generalizing s with
  | ind n ih =>
    cases ht : s.turn? env with
    | none => exact ⟨0, Nat.zero_le _, s, rfl, ht, (result_of_turn?_eq_none ht).symm⟩
    | some s₁ =>
      obtain ⟨hresult, hcount⟩ := of_turn? ht
      obtain ⟨m, hm, s', hs', hend, hout⟩ := ih _ (hn ▸ hcount) s₁ rfl
      exact ⟨m + 1, by omega, s', by rw [turns?, ht]; exact hs', hend, hout.trans hresult⟩

end Scan

/-- A format is substituted by replacing the occurrences of placeholders, which do not overlap, all at
once; and so does the scanner, which ends on every format. -/
theorem substitute_simultaneous (env : Environment) (format : Text) :
    (∀ i tag tag', Occurs format i tag → Occurs format i tag' → tag = tag') ∧
      (∀ i j tag tag', Occurs format i tag → Occurs format j tag' → i < j →
        i + tag.placeholder.length ≤ j) ∧
      substitute env format = (List.range format.length).flatMap (replacement env format) ∧
      ∃ n ≤ format.count '{', ∃ s, Scan.turns? env n ⟨[], format⟩ = some s ∧
        s.turn? env = none ∧ s.out ++ s.rest = substitute env format :=
  ⟨fun _ _ _ h h' => h.unique h', fun _ _ _ _ h h' hij => h.end_le h' hij,
    substitute_eq_replaced env format, Scan.exists_turns? env ⟨[], format⟩⟩

/-- Braces around and before placeholders, a name that starts with another one, and values that look
like placeholders. -/
theorem substitute_simultaneous_nested :
    let format := "\x7bx\x7bhostnameascii\x7d\x7b\x7btitle\x7d\x7d".toList
    let env : Environment := ⟨{ hostname := "{title}".toList }, "{hash}".toList⟩
    Occurs format 2 .hostnameAscii ∧ Occurs format 18 .title ∧
      substitute env format = "\x7bx\x7btitle\x7d\x7b\x7bhash\x7d\x7d".toList := by
  intro format env
  have hvalue : (List.range format.length).flatMap (replacement env format) =
      "\x7bx\x7btitle\x7d\x7b\x7bhash\x7d\x7d".toList := by decide +kernel
  exact ⟨by decide +kernel, by decide +kernel,
    (substitute_simultaneous env format).2.2.1.trans hvalue⟩

end Format
end PageTitle
