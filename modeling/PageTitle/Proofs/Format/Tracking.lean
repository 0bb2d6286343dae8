import PageTitle.Format
import PageTitle.Proofs.Text.Words

/-!
# Formats that track their suffix

A format that starts with the title's placeholder and holds it nowhere else substitutes a title by
that title and what the format makes of an empty one (`substitute_of_tracksSuffix`). No other format puts
the title before a text of the location alone (`tracksSuffix_iff`): a format that starts with anything else
starts all its titles alike, and one that goes on with the title grows with it. A format can be cut
before each character that stands in no placeholder but at its start (`substitute_append`).
-/

namespace PageTitle
namespace Text
variable {part t : Text}

theorem occursIn_of_dropFront? {rest : Text} (h : dropFront? part t = some rest) :
    occursIn part t = true := by
  cases t with
  | nil =>
    have : part = [] ∧ rest = [] := by simpa using dropFront?_eq_some_iff.mp h
    simp [occursIn, this.1]
  | cons c t => simp [occursIn, h]

theorem occursIn_append (a : Text) (h : occursIn part t = true) : occursIn part (a ++ t) = true := by
  induction a with
  | nil => exact h
  | cons c a ih => simp [occursIn, ih]

theorem exists_of_occursIn (h : occursIn part t = true) : ∃ a b, t = a ++ (part ++ b) := by
  induction t with
  | nil =>
    have hp : part = [] := by simpa [occursIn] using h
    exact ⟨[], [], by simp [hp]⟩
  | cons c t ih =>
    simp only [occursIn, Bool.or_eq_true, Option.isSome_iff_exists] at h
    rcases h with ⟨b, hb⟩ | h
    · exact ⟨[], b, (dropFront?_eq_some_iff.mp hb).trans rfl⟩
    · obtain ⟨a, b, rfl⟩ := ih h
      exact ⟨c :: a, b, rfl⟩

end Text

namespace Tag

theorem mem_all (tag : Tag) : tag ∈ all := by
  cases tag <;> decide

theorem open_notMem_tail_placeholder (tag : Tag) : '{' ∉ tag.placeholder.tail := by
  cases tag <;> decide

end Tag

namespace Format
variable {t rest : Text} {tag : Tag}

/-- A placeholder is the name of its tag in braces. -/
theorem eq_of_tagAt? (h : tagAt? t = some (tag, rest)) : '{' :: t = tag.placeholder ++ rest := by
  simp only [tagAt?, Option.bind_eq_some_iff, Option.map_eq_some_iff] at h
  obtain ⟨⟨name, rest'⟩, hc, tag', ht, heq⟩ := h
  cases heq
  obtain ⟨c, rfl, hc, -⟩ := Text.cut?_eq_some hc
  have hc : c = '}' := by simpa using hc
  simp [Tag.placeholder, Tag.braced, Tag.name_of_ofName? ht, hc]

theorem cut?_append {p : Char → Bool} {a : Text} {c : Char} (hc : p c = true)
    (ha : ∀ x ∈ a, p x = false) (b : Text) : Text.cut? p (a ++ c :: b) = some (a, b) := by
  induction a with
  | nil => simp [Text.cut?, hc]
  | cons x a ih =>
    rw [List.cons_append, Text.cut?, if_neg (by simp [ha x (by simp)]),
      ih fun y hy => ha y (by simp [hy])]
    rfl

/-- A tag's placeholder is read as that tag. -/
theorem tagAt?_placeholder (tag : Tag) (rest : Text) :
    tagAt? (tag.name ++ '}' :: rest) = some (tag, rest) := by
  have hn : ∀ x ∈ tag.name, decide (x = '}') = false := fun x hx => by
    simpa using fun hx' : x = '}' => tag.close_notMem_name (hx' ▸ hx)
  rw [tagAt?, cut?_append (by simp) hn]
  simp [Tag.ofName?_name]

theorem substitute_placeholder (env : Environment) (tag : Tag) (rest : Text) :
    substitute env (tag.placeholder ++ rest) = tag.value env ++ substitute env rest := by
  have h : tag.placeholder ++ rest = '{' :: (tag.name ++ '}' :: rest) := by
    simp [Tag.placeholder, Tag.braced]
  rw [h, substitute, if_pos rfl]
  split
  · next tag' rest' ht =>
    rw [tagAt?_placeholder] at ht
    cases ht
    rfl
  · next ht => rw [tagAt?_placeholder] at ht; cases ht

/-- The title is in the value of no tag but its own. -/
theorem value_congr (h : tag ≠ .title) (l : Location) (t t' : Text) :
    tag.value ⟨l, t⟩ = tag.value ⟨l, t'⟩ := by
  cases tag <;> first | exact absurd rfl h | rfl

/-- There is a location where every tag but the title's has a value. -/
theorem exists_value_ne_nil : ∃ l : Location, ∀ tag ≠ Tag.title, ∀ t, tag.value ⟨l, t⟩ ≠ [] := by
  let l : Location := ⟨"http:".toList, "[::1]".toList, "1".toList, "/a".toList, "?b".toList, "#c".toList⟩
  have hl : ∀ tag ∈ Tag.all, tag ≠ .title → tag.value ⟨l, []⟩ ≠ [] := by decide +kernel
  refine ⟨l, fun tag htag t => ?_⟩
  rw [value_congr htag l t []]
  exact hl tag tag.mem_all htag

/-- A format without the title's placeholder makes the same of all titles. -/
theorem substitute_congr_title {format : Text}
    (h : Text.occursIn Tag.title.placeholder format = false) (l : Location) (t t' : Text) :
    substitute ⟨l, t⟩ format = substitute ⟨l, t'⟩ format := by
  fun_induction substitute ⟨l, t⟩ format with
  | case1 => rw [substitute]
  | case2 r tag rest ht ih =>
    have hr := eq_of_tagAt? ht
    have hne : tag ≠ .title := by
      rintro rfl
      rw [Text.occursIn_of_dropFront? (Text.dropFront?_eq_some_iff.mpr hr)] at h
      cases h
    rw [hr, substitute_placeholder, value_congr hne l t t', ih]
    cases ho : Text.occursIn Tag.title.placeholder rest with
    | false => rfl
    | true => rw [hr, Text.occursIn_append _ ho] at h; cases h
  | case3 r ht ih =>
    rw [substitute, if_pos rfl]
    split
    · next ht' => rw [ht] at ht'; cases ht'
    · rw [ih (by simp_all [Text.occursIn])]
  | case4 c r hc ih => rw [substitute, if_neg hc, ih (by simp_all [Text.occursIn])]

/-- What a format that tracks its suffix makes of a title. -/
theorem substitute_of_tracksSuffix {format : Text} (h : tracksSuffix format = true) (l : Location)
    (t : Text) : substitute ⟨l, t⟩ format = t ++ substitute ⟨l, []⟩ format := by
  unfold tracksSuffix at h
  split at h
  · next rest hd =>
    rw [Text.dropFront?_eq_some_iff.mp hd, substitute_placeholder, substitute_placeholder,
      substitute_congr_title (by simpa using h) l t []]
    rfl
  · cases h

theorem substitute_open_of_none (env : Environment) {r : Text} (h : tagAt? r = none) :
    substitute env ('{' :: r) = '{' :: substitute env r := by
  rw [substitute, if_pos rfl]
  split
  · next h' => rw [h] at h'; cases h'
  · rfl

/-! ### Formats in a row -/

variable {a r : Text} {c : Char}

theorem substitute_append_of_notMem (env : Environment) (ha : '{' ∉ a) (r : Text) :
    substitute env (a ++ r) = a ++ substitute env r := by
  induction a with
  | nil => rfl
  | cons c a ih =>
    simp only [List.mem_cons, not_or] at ha
    rw [List.cons_append, substitute, if_neg (Ne.symm ha.1), ih ha.2]
    rfl

/-- A placeholder does not go on over a character that is in none. -/
theorem tagAt?_append_eq_none (hc : ∀ tag : Tag, c ∉ tag.placeholder.tail) (h : tagAt? a = none) :
    tagAt? (a ++ c :: r) = none := by
  cases ht : tagAt? (a ++ c :: r) with
  | none => rfl
  | some p =>
    obtain ⟨tag, rest⟩ := p
    have heq : ('{' :: a) ++ c :: r = tag.placeholder ++ rest := eq_of_tagAt? ht
    rcases List.append_eq_append_iff.mp heq with ⟨b, hb, hr⟩ | ⟨b, hb, -⟩
    · have htail : tag.placeholder.tail = a ++ b := by rw [hb]; rfl
      cases b with
      | nil =>
        have hname : a = tag.name ++ ['}'] := by
          rw [← List.append_nil a, ← htail]
          rfl
        rw [hname, tagAt?_placeholder] at h
        cases h
      | cons d b =>
        obtain ⟨rfl, -⟩ := List.cons_eq_cons.mp hr
        exact absurd (htail ▸ List.mem_append_right a List.mem_cons_self) (hc tag)
    · have hname : a = tag.name ++ '}' :: b := by
        have := congrArg List.tail hb
        simpa [Tag.placeholder, Tag.braced] using this
      rw [hname, tagAt?_placeholder] at h
      cases h

/-- A format is substituted part by part where it is cut before a character that is in a placeholder only
at its start. -/
theorem substitute_append (env : Environment) (hc : ∀ tag : Tag, c ∉ tag.placeholder.tail) (a r : Text) :
    substitute env (a ++ c :: r) = substitute env a ++ substitute env (c :: r) := by
  fun_induction substitute env a with
  | case1 => rfl
  | case2 a tag rest ht ih =>
    rw [eq_of_tagAt? ht, List.append_assoc, substitute_placeholder, ih, List.append_assoc]
  | case3 a ht ih =>
    rw [List.cons_append, substitute_open_of_none env (tagAt?_append_eq_none hc ht), ih]
    rfl
  | case4 d a hd ih =>
    rw [List.cons_append, substitute, if_neg hd, ih]
    rfl

/-! ### The title first, and once -/

/-- A format that holds the title's placeholder makes no text shorter than the title. -/
theorem length_le_substitute {format : Text}
    (h : Text.occursIn Tag.title.placeholder format = true) (l : Location) (t : Text) :
    t.length ≤ (substitute ⟨l, t⟩ format).length := by
  obtain ⟨a, b, rfl⟩ := Text.exists_of_occursIn h
  have hcut : substitute ⟨l, t⟩ (a ++ (Tag.title.placeholder ++ b)) =
      substitute ⟨l, t⟩ a ++ (t ++ substitute ⟨l, t⟩ b) := by
    have := substitute_append ⟨l, t⟩ Tag.open_notMem_tail_placeholder a (Tag.title.name ++ ['}'] ++ b)
    exact this.trans (congrArg _ (substitute_placeholder ⟨l, t⟩ .title b))
  have hlen := congrArg List.length hcut
  simp only [List.length_append] at hlen
  omega

/-- A format that does not start with the title's placeholder starts all titles of a page with the same
character. -/
theorem exists_head?_substitute {format : Text}
    (h : ∀ rest, format ≠ Tag.title.placeholder ++ rest) :
    ∃ l : Location, ∃ x, ∀ t, (substitute ⟨l, t⟩ format).head? = x := by
  obtain ⟨l, hl⟩ := exists_value_ne_nil
  refine ⟨l, (substitute ⟨l, []⟩ format).head?, fun t => ?_⟩
  fun_cases substitute ⟨l, t⟩ format with
  | case1 => rw [substitute]
  | case2 r tag rest ht =>
    have hne : tag ≠ .title := fun htag => h rest (htag ▸ eq_of_tagAt? ht)
    have hv : tag.value ⟨l, []⟩ = tag.value ⟨l, t⟩ := value_congr hne l [] t
    obtain ⟨c, v, hcv⟩ := List.exists_cons_of_ne_nil (hl tag hne t)
    rw [eq_of_tagAt? ht, substitute_placeholder, hv, hcv]
    rfl
  | case3 r ht => rw [substitute_open_of_none _ ht]; rfl
  | case4 c r hc => rw [substitute, if_neg hc]; rfl

/-- A format tracks its suffix exactly when it makes of every environment the title and a text of the
location alone. -/
theorem tracksSuffix_iff (format : Text) : tracksSuffix format = true ↔
    ∃ r : Location → Text, ∀ env, substitute env format = env.title ++ r env.location := by
  constructor
  · intro h
    exact ⟨fun l => substitute ⟨l, []⟩ format, fun env =>
      substitute_of_tracksSuffix h env.location env.title⟩
  · rintro ⟨r, hr⟩
    cases hd : Text.dropFront? Tag.title.placeholder format with
    | none =>
      have hno : ∀ rest, format ≠ Tag.title.placeholder ++ rest := by
        intro rest hf
        rw [Text.dropFront?_eq_some_iff.mpr hf] at hd
        cases hd
      obtain ⟨l, x, hx⟩ := exists_head?_substitute hno
      have ha : x = some 'a' := by rw [← hx ['a'], hr]; rfl
      have hb : x = some 'b' := by rw [← hx ['b'], hr]; rfl
      rw [ha] at hb
      exact absurd hb (by decide)
    | some rest =>
      have hrest : ∀ l t, substitute ⟨l, t⟩ rest = r l := by
        intro l t
        have hall := hr ⟨l, t⟩
        rw [Text.dropFront?_eq_some_iff.mp hd, substitute_placeholder] at hall
        exact List.append_cancel_left hall
      rw [tracksSuffix, hd]
      cases hmore : Text.occursIn Tag.title.placeholder rest with
      | false => simp [hmore]
      | true =>
        have hlong := length_le_substitute hmore {} (List.replicate ((r {}).length + 1) 'a')
        rw [hrest, List.length_replicate] at hlong
        omega

end Format
end PageTitle
