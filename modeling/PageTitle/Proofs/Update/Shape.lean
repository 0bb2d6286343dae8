import PageTitle.Proofs.Update.Suffix

/-!
# The shape of an update

For formats that track their suffix. `make_shape`: the title of an update is the normal form of the raw
title without the last suffix, a space where a blank parts the two, and the suffix, in which the title
has no part; so the title can be taken out of it again. `make_prepend_make`: an update of an updated
title, with anything written before it, renders what was written and the first raw title. Where nothing
was written it changes nothing. `make_prepend_make_other`: by another format, or elsewhere, it renders
what was written and what stands before the suffix, so that nothing of the old suffix is left.
-/

namespace PageTitle
namespace Text
variable {b r : Text}

/-- What parts a raw title from the suffix in the title that is rendered of it with the rest `r` of
the format. -/
def separator (b r : Text) : Text :=
  if blank b = false ∧ normalize r ≠ [] ∧
      (b.getLast?.any isBlank = true ∨ r.head?.any isBlank = true) then [' ']
  else []

theorem blank_separator (b r : Text) : blank (separator b r) = true := by
  unfold separator
  split <;> rfl

theorem separator_of_blank (h : blank b = true) (r : Text) : separator b r = [] := by
  rw [separator, if_neg]
  rintro ⟨hb, -, -⟩
  rw [h] at hb
  cases hb

theorem separator_of_blank_right (b : Text) (h : blank r = true) : separator b r = [] := by
  rw [separator, if_neg]
  rintro ⟨-, hr, -⟩
  exact hr (normalize_of_blank h)

theorem any_head?_isBlank (h : r ≠ []) : r.head?.any isBlank = !startsInWord r := by
  obtain ⟨c, r, rfl⟩ := List.exists_cons_of_ne_nil h
  simp

theorem any_getLast?_isBlank (h : b ≠ []) : b.getLast?.any isBlank = !endsInWord b := by
  rw [← List.reverse_reverse b, endsInWord_reverse, List.getLast?_reverse]
  exact any_head?_isBlank (by simpa using h)

theorem separator_of_not_blank (hb : blank b = false) (hr : blank r = false) :
    separator b r = if endsInWord b && startsInWord r then [] else [' '] := by
  have hbn : b ≠ [] := by rintro rfl; cases hb
  have hrn : r ≠ [] := by rintro rfl; cases hr
  have hn : normalize r ≠ [] := by rw [ne_eq, normalize_eq_nil_iff, hr]; simp
  rw [separator, any_getLast?_isBlank hbn, any_head?_isBlank hrn]
  cases endsInWord b <;> cases startsInWord r <;> simp [hb, hn]

theorem stem_eq (b r : Text) : stem b r = normalize b ++ separator b r := by
  unfold stem
  split
  · next hb => rw [separator_of_blank hb, normalize_of_blank hb]; rfl
  · next hb =>
    have hb : blank b = false := by simpa using hb
    cases hr : blank r with
    | true => rw [separator_of_blank_right b hr]; simp
    | false =>
      rw [separator_of_not_blank hb hr, Bool.false_or]
      split <;> simp

theorem trimEnd_normalize (t : Text) : trimEnd (normalize t) = normalize t := by
  cases h : blank t with
  | true => rw [normalize_of_blank h]; rfl
  | false => exact trimEnd_of_endsInWord (endsInWord_normalize h)

/-- The space before the suffix shows in the normal form of the whole. -/
theorem stem_eq_ite (b r : Text) : stem b r =
    if blank b = false ∧ normalize r ≠ [] ∧
      normalize (b ++ r) = normalize b ++ ' ' :: normalize r then normalize b ++ [' ']
    else normalize b := by
  have hn : normalize (b ++ r) = normalize b ++ (separator b r ++ normalize r) := by
    rw [normalize_append_eq_stem, stem_eq, List.append_assoc]
  rw [stem_eq]
  split
  · next h =>
    obtain ⟨-, -, hs⟩ := h
    have hs : normalize b ++ (separator b r ++ normalize r) =
        normalize b ++ ([' '] ++ normalize r) := hn.symm.trans hs
    rw [List.append_cancel_right (List.append_cancel_left hs)]
  · next h =>
    have hno : separator b r = [] := by
      unfold separator at hn ⊢
      split at hn
      · next hsep => exact absurd ⟨hsep.1, hsep.2.1, hn⟩ h
      · next hsep => exact if_neg hsep
    rw [hno, List.append_nil]

theorem normalize_stem (b r : Text) : normalize (stem b r) = normalize b := by
  rw [stem_eq, normalize_congr (words_append_blank _ (blank_separator b r)), normalize_normalize]

/-- Without the blanks at its end, what stands before the suffix is the normal form of the raw title. -/
theorem trimEnd_stem (b r : Text) : trimEnd (stem b r) = normalize b := by
  rw [stem_eq, trimEnd_append_of_blank _ (blank_separator b r), trimEnd_normalize]

end Text

namespace Format

/-- A format that tracks its suffix is the title's placeholder and a rest, of which every title makes
the same. -/
theorem exists_rest_of_tracksSuffix {format : Text} (h : tracksSuffix format = true) :
    ∃ rest, format = Tag.title.placeholder ++ rest ∧
      ∀ l t t', substitute ⟨l, t⟩ rest = substitute ⟨l, t'⟩ rest := by
  unfold tracksSuffix at h
  split at h
  · next rest hd =>
    exact ⟨rest, Text.dropFront?_eq_some_iff.mp hd, substitute_congr_title (by simpa using h)⟩
  · cases h

end Format

namespace Update
variable {previous : Option Text} {t : Text}

/-- The raw title that is rendered: without the last suffix if that is not empty and ends the title,
and else as it is. -/
inductive Stripped (previous : Option Text) (t : Text) : Text → Prop
  | cut {b s : Text} (hp : previous = some s) (hs : s ≠ []) (ht : t = b ++ s) : Stripped previous t b
  | whole (h : ∀ s, previous = some s → s ≠ [] → ¬ s <:+ t) : Stripped previous t t

theorem stripped_strip (previous : Option Text) (t : Text) : Stripped previous t (strip previous t) := by
  cases previous with
  | none => exact .whole nofun
  | some s =>
    by_cases hs : s = []
    · rw [strip, if_pos (List.isEmpty_iff.mpr hs)]
      refine .whole fun s' hs' hne => ?_
      cases hs'
      exact absurd hs hne
    · rw [strip, if_neg (mt List.isEmpty_iff.mp hs)]
      cases hd : Text.dropBack? s t with
      | some b => exact .cut rfl hs (Text.dropBack?_eq_some_iff.mp hd)
      | none =>
        refine .whole fun s' hs' _ => ?_
        cases hs'
        rintro ⟨b, hb⟩
        rw [Text.dropBack?_eq_some_iff.mpr hb.symm] at hd
        cases hd

end Update

namespace Template
variable {w : Template} (h : Format.tracksSuffix w.format = true)
include h

theorem render_eq_stem (b : Text) : w.render b = Text.stem b w.rest ++ w.suffix := by
  rw [render_eq h, suffix_eq h, Text.normalize_append_eq_stem]

/-- The rest of the format makes the same of every title. -/
theorem exists_rest : ∃ rest, w.format = Tag.title.placeholder ++ rest ∧
    ∀ t, Format.substitute ⟨w.location, t⟩ rest = w.rest := by
  obtain ⟨rest, hf, hc⟩ := Format.exists_rest_of_tracksSuffix h
  refine ⟨rest, hf, fun t => ?_⟩
  rw [Template.rest, hf, Format.substitute_placeholder]
  exact hc w.location t []

/-- What a page writes before a title that carries a raw one is rendered with the raw one. -/
theorem render_strip_append {b t : Text} (hc : Text.Carries w.rest b t) (x : Text) :
    w.render (Update.strip (some w.suffix) (x ++ t)) = w.render (x ++ b.trimStart) := by
  obtain ⟨p, rfl, hp⟩ := hc
  rw [suffix_eq h, ← List.append_assoc, Update.strip_append, render_eq h, render_eq h,
    List.append_assoc, List.append_assoc]
  exact Text.normalize_congr (hp.words_eq x)

end Template

namespace Update

/-- The shape of an update by a format that tracks its suffix: the rest of the format alone makes the
suffix, and the raw title that was rendered stands before it in normal form, parted from it by at most
one space. -/
theorem make_shape {format : Text} (h : Format.tracksSuffix format = true) (l : Location) :
    ∃ rest r, format = Tag.title.placeholder ++ rest ∧
      (∀ t, Format.substitute ⟨l, t⟩ rest = r) ∧ ∀ (t : Text) (previous : Option Text),
        let b := strip previous t
        let u := make format ⟨l, t⟩ previous
        Stripped previous t b ∧ u.suffix = some (Text.normalize r) ∧
          u.title = Text.normalize b ++ Text.separator b r ++ Text.normalize r ∧
          (Text.dropBack? (Text.normalize r) u.title).map Text.trimEnd = some (Text.normalize b) := by
  let w : Template := ⟨format, l⟩
  obtain ⟨rest, hf, hr⟩ := Template.exists_rest (w := w) h
  refine ⟨rest, w.rest, hf, hr, fun t previous => ?_⟩
  have hmake : make format ⟨l, t⟩ previous = ⟨w.render (strip previous t), some w.suffix⟩ :=
    Template.make_eq (w := w) h t previous
  have htitle := Template.render_eq_stem (w := w) h (strip previous t)
  have hsuffix := Template.suffix_eq (w := w) h
  rw [hmake, htitle, ← hsuffix]
  refine ⟨stripped_strip previous t, rfl, by rw [Text.stem_eq], ?_⟩
  rw [Text.dropBack?_eq_some_iff.mpr rfl, Option.map_some, Text.trimEnd_stem]

/-- A raw title that holds placeholders and ends in the suffix, on a page whose fragment is a
placeholder. -/
theorem make_shape_forged :
    let format := "{title} - {hash}".toList
    let l : Location := { hash := "{title} ".toList }
    let t := " {hash} - {title}".toList
    let s := "- {title}".toList
    Format.tracksSuffix format = true ∧ strip (some s) t = " {hash} ".toList ∧
      (make format ⟨l, t⟩ (some s)).title = "{hash} - {title}".toList ∧
      (make format ⟨l, t⟩ (some s)).suffix = some s := by
  intro format l t s
  have h : Format.tracksSuffix format = true := by decide +kernel
  obtain ⟨rest, r, hf, hr, hu⟩ := make_shape h l
  have hf : Tag.title.placeholder ++ " - {hash}".toList = Tag.title.placeholder ++ rest := hf
  have hrest := List.append_cancel_left hf
  obtain rfl : " - {title} ".toList = r := by
    rw [← hr [], ← hrest]
    decide +kernel
  obtain ⟨-, hs, ht, -⟩ := hu t (some s)
  have hb : strip (some s) t = " {hash} ".toList := by decide +kernel
  rw [hb] at ht
  have hsuffix : Text.normalize " - {title} ".toList = s := by decide +kernel
  have htitle : Text.normalize " {hash} ".toList ++
      Text.separator " {hash} ".toList " - {title} ".toList ++ s = "{hash} - {title}".toList := by
    decide +kernel
  rw [hsuffix] at hs ht
  exact ⟨h, hb, ht.trans htitle, hs⟩

/-- The update of an updated title, before which a page wrote a prefix. -/
theorem make_prepend_make {format : Text} (h : Format.tracksSuffix format = true) (l : Location)
    (t : Text) (previous : Option Text) :
    let b := strip previous t
    Stripped previous t b ∧ ∃ f s, make format ⟨l, t⟩ previous = ⟨f, some s⟩ ∧
      (∀ x, make format ⟨l, x ++ f⟩ (some s) =
        ⟨Format.render format ⟨l, x ++ b.trimStart⟩, some s⟩) ∧
      make format ⟨l, f⟩ (some s) = ⟨f, some s⟩ := by
  intro b
  let w : Template := ⟨format, l⟩
  have hmake := Template.make_eq (w := w) h
  have hx (x : Text) : make format ⟨l, x ++ w.render b⟩ (some w.suffix) =
      ⟨w.render (x ++ b.trimStart), some w.suffix⟩ := by
    rw [hmake, Template.render_strip_append h (Template.carries_render h b)]
  refine ⟨stripped_strip previous t, w.render b, w.suffix, hmake t previous, hx, ?_⟩
  calc make format ⟨l, w.render b⟩ (some w.suffix)
      = ⟨w.render b.trimStart, some w.suffix⟩ := hx []
    _ = ⟨w.render b, some w.suffix⟩ := by rw [Template.render_trimStart h]

/-- A raw title that ends in the suffix and has blanks before it, and a prefix without a blank. -/
theorem make_prepend_make_glued :
    let format := "{title}-{hash}".toList
    let l : Location := { hash := " h".toList }
    let s := "- h".toList
    Format.tracksSuffix format = true ∧
      make format ⟨l, " Inbox \t- h".toList⟩ (some s) = ⟨"Inbox - h".toList, some s⟩ ∧
      make format ⟨l, "(1)Inbox - h".toList⟩ (some s) = ⟨"(1)Inbox - h".toList, some s⟩ := by
  intro format l s
  have h : Format.tracksSuffix format = true := by decide +kernel
  have hfirst : make format ⟨l, " Inbox \t- h".toList⟩ (some s) = ⟨"Inbox - h".toList, some s⟩ := by
    decide +kernel
  obtain ⟨-, f, s', hu, hx, -⟩ := make_prepend_make h l " Inbox \t- h".toList (some s)
  rw [hfirst] at hu
  cases hu
  refine ⟨h, hfirst, (hx "(1)".toList).trans ?_⟩
  decide +kernel

/-- The update of an updated title, before which a page wrote a prefix, by another format at another
location. -/
theorem make_prepend_make_other {format format' : Text} (h : Format.tracksSuffix format = true)
    (h' : Format.tracksSuffix format' = true) (l l' : Location) (t : Text) (previous : Option Text) :
    let b := strip previous t
    Stripped previous t b ∧ ∃ f s w, make format ⟨l, t⟩ previous = ⟨f, some s⟩ ∧
      w = (if Text.blank b = false ∧ s ≠ [] ∧ f = Text.normalize b ++ ' ' :: s then
          Text.normalize b ++ [' ']
        else Text.normalize b) ∧
      (∀ x, (make format' ⟨l', x ++ f⟩ (some s)).title = Format.render format' ⟨l', x ++ w⟩) ∧
      ∃ gap, (gap = [] ∨ gap = [' ']) ∧ (make format' ⟨l', f⟩ (some s)).title =
        Text.normalize b ++ gap ++ Format.render format' ⟨l', []⟩ := by
  intro b
  let v : Template := ⟨format, l⟩
  let v' : Template := ⟨format', l'⟩
  have hf : v.render b = Text.normalize (b ++ v.rest) := Template.render_eq h b
  have hs : v.suffix = Text.normalize v.rest := Template.suffix_eq h
  have hstem : v.render b = Text.stem b v.rest ++ v.suffix := Template.render_eq_stem h b
  have hother : ∀ x, (make format' ⟨l', x ++ v.render b⟩ (some v.suffix)).title =
      v'.render (x ++ Text.stem b v.rest) := by
    intro x
    have hstrip : strip (some v.suffix) (x ++ v.render b) = x ++ Text.stem b v.rest := by
      rw [hstem, ← List.append_assoc, strip_append]
    have hmake := Template.make_eq (w := v') h' (x ++ v.render b) (some v.suffix)
    rw [hstrip] at hmake
    exact congrArg Update.title hmake
  refine ⟨stripped_strip previous t, v.render b, v.suffix, Text.stem b v.rest,
    Template.make_eq (w := v) h t previous, ?_, hother, ?_⟩
  · rw [Text.stem_eq_ite, ← hf, ← hs]
  · refine ⟨Text.separator (Text.stem b v.rest) v'.rest, ?_, ?_⟩
    · unfold Text.separator
      split
      · exact .inr rfl
      · exact .inl rfl
    · have htitle : v'.render (Text.stem b v.rest) =
          Text.stem (Text.stem b v.rest) v'.rest ++ v'.suffix := Template.render_eq_stem h' _
      rw [Text.stem_eq (Text.stem b v.rest), Text.normalize_stem] at htitle
      exact (hother []).trans htitle

/-- The first format parts the title from its suffix by a space, and the second one puts its suffix right
behind the title that is left. -/
theorem make_prepend_make_other_glued :
    let l : Location := { hash := "#h".toList }
    let l' : Location := { hash := "#k".toList }
    Format.tracksSuffix "{title} - {hash}".toList = true ∧
      Format.tracksSuffix "{title}{hash}".toList = true ∧
      make "{title} - {hash}".toList ⟨l, " A  B".toList⟩ none = ⟨"A B - #h".toList, some "- #h".toList⟩ ∧
      (make "{title}{hash}".toList ⟨l', "(1) A B - #h".toList⟩ (some "- #h".toList)).title =
        "(1) A B #k".toList := by
  intro l l'
  have h : Format.tracksSuffix "{title} - {hash}".toList = true := by decide +kernel
  have h' : Format.tracksSuffix "{title}{hash}".toList = true := by decide +kernel
  have hfirst : make "{title} - {hash}".toList ⟨l, " A  B".toList⟩ none =
      ⟨"A B - #h".toList, some "- #h".toList⟩ := by decide +kernel
  obtain ⟨-, f, s, w, hmake, hw, hx, -⟩ := make_prepend_make_other h h' l l' " A  B".toList none
  rw [hfirst] at hmake
  cases hmake
  have hw : w = "A B ".toList := by
    rw [hw]
    decide +kernel
  refine ⟨h, h', hfirst, (hx "(1) ".toList).trans ?_⟩
  rw [hw]
  decide +kernel

end Update
end PageTitle
