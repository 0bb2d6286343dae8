import PageTitle.Proofs.Format.Tracking
import PageTitle.Proofs.Text.Trim
import PageTitle.Update

/-!
# Titles that carry a suffix

With a format that tracks its suffix, a title is rendered by writing the format's rest `r` behind it
and normalizing. `Carries r b t`: the text `t` ends in the suffix, and what stands before that is as
good as the raw title `b`. The render of `b` carries `b` (`Carries.of_render`), a page that writes a
prefix before a text that carries `b` makes one that carries the prefix and `b` (`Carries.prepend`),
and a title without the suffix that it ends in renders as what it carries does
(`Template.render_strip`).
-/

namespace PageTitle
namespace Text
variable {b p r t : Text}

/-- What stands before the suffix in the normal form of a raw title with a rest behind it. -/
def stem (b r : Text) : Text :=
  if blank b then []
  else if blank r || (endsInWord b && startsInWord r) then normalize b
  else normalize b ++ [' ']

theorem normalize_append_eq_stem (b r : Text) :
    normalize (b ++ r) = stem b r ++ normalize r := by
  unfold stem
  split
  · next hb => rw [normalize, words_append, words_eq_nil_iff.mpr hb]; split <;> rfl
  · next hb =>
    simp only [Bool.not_eq_true] at hb
    cases hr : blank r with
    | true =>
      rw [normalize_congr (words_append_blank b hr), normalize_of_blank hr]
      simp
    | false =>
      rw [normalize_append hb hr]
      cases endsInWord b && startsInWord r <;> simp

/-- Before a rest `r`, and whatever stands before them, `p` has the words of a raw title `b`
without its leading blanks. -/
structure StandsFor (r b p : Text) : Prop where
  trimmed : trimStart p = p
  words_eq : ∀ x, words (x ++ (p ++ r)) = words (x ++ (trimStart b ++ r))

theorem standsFor_stem (b r : Text) : StandsFor r b (stem b r) := by
  unfold stem
  split
  · next hb => exact ⟨rfl, fun x => by rw [trimStart_of_blank hb]⟩
  · next hb =>
    simp only [Bool.not_eq_true] at hb
    have hs := startsInWord_normalize hb
    have hs' := startsInWord_trimStart hb
    have hw : words (normalize b) = words (trimStart b) := by
      rw [words_normalize, words_trimStart]
    split
    · next h =>
      refine ⟨trimStart_of_startsInWord hs, fun x => ?_⟩
      simp only [Bool.or_eq_true, Bool.and_eq_true] at h
      rcases h with hr | ⟨he, -⟩
      · rw [← List.append_assoc, ← List.append_assoc, words_append_blank _ hr,
          words_append_blank _ hr]
        exact words_append_congr_right x hw (hs.trans hs'.symm)
      · refine words_append_congr_right x (words_append_congr_left hw ?_ r) ?_
        · rw [endsInWord_normalize hb, endsInWord_trimStart, he]
        · simp only [startsInWord_append, hs, hs']
          split <;> split <;> simp_all
    · next h =>
      -- a blank ends the stem, and in the raw title too a blank parts the words of `b` from those of `r`
      have hn : ∀ y, words (y ++ trimStart b ++ r) = words (y ++ trimStart b) ++ words r := by
        intro y
        have ht : trimStart b ≠ [] := by rintro h0; simp [h0] at hs'
        rw [words_append, endsInWord_append, if_neg ht, endsInWord_trimStart, if_neg]
        simp only [Bool.or_eq_true, not_or] at h
        exact h.2
      have hne : normalize b ≠ [] := by rintro h0; simp [h0] at hs
      refine ⟨trimStart_of_startsInWord (by rw [startsInWord_append, if_neg hne, hs]), fun x => ?_⟩
      rw [← List.append_assoc x (trimStart b), hn, ← words_append_congr_right x hw (hs.trans hs'.symm),
        ← List.append_assoc, ← List.append_assoc,
        words_append_of_not_endsInWord (by simp [endsInWord_append, endsInWord_cons, isBlank_space]),
        words_append_blank _ (by decide)]

namespace StandsFor

theorem normalize (h : StandsFor r b p) : normalize (p ++ r) = Text.normalize (b ++ r) :=
  normalize_congr ((h.words_eq []).trans (words_trimStart_append b r))

/-- A prefix before what stands for a raw title stands for the prefix before the raw title. -/
theorem prepend (h : StandsFor r b p) (x : Text) :
    StandsFor r (x ++ trimStart b) (trimStart (x ++ p)) := by
  refine ⟨trimStart_trimStart _, fun y => ?_⟩
  cases hx : blank x with
  | true =>
    rw [trimStart_append_of_blank hx, trimStart_append_of_blank hx, trimStart_trimStart, h.trimmed]
    exact h.words_eq y
  | false =>
    rw [trimStart_append hx, trimStart_append hx]
    simpa using h.words_eq (y ++ trimStart x)

/-- Where nothing but blanks follows, trailing blanks do not matter. -/
theorem trimEnd (h : StandsFor r b p) (hr : blank r = true) : StandsFor r b (trimEnd p) := by
  refine ⟨by rw [← h.trimmed, trimStart_trimEnd], fun x => ?_⟩
  obtain ⟨c, hc, hp⟩ := exists_trimEnd_append p
  calc words (x ++ (Text.trimEnd p ++ r))
      = words (x ++ Text.trimEnd p) := by rw [← List.append_assoc, words_append_blank _ hr]
    _ = words (x ++ Text.trimEnd p ++ c) := (words_append_blank _ hc).symm
    _ = words (x ++ p) := by rw [List.append_assoc, ← hp]
    _ = words (x ++ (p ++ r)) := by rw [← List.append_assoc, words_append_blank _ hr]
    _ = words (x ++ (trimStart b ++ r)) := h.words_eq x

end StandsFor

/-- A text that ends in the suffix, before which something stands for a raw title. -/
def Carries (r b t : Text) : Prop := ∃ p, t = p ++ normalize r ∧ StandsFor r b p

namespace Carries

/-- The render of a raw title carries it. -/
theorem of_render (b r : Text) : Carries r b (normalize (b ++ r)) :=
  ⟨stem b r, normalize_append_eq_stem b r, standsFor_stem b r⟩

theorem prepend (h : Carries r b t) (x : Text) : Carries r (x ++ trimStart b) (trim (x ++ t)) := by
  obtain ⟨p, rfl, hp⟩ := h
  cases hr : blank r with
  | true =>
    rw [normalize_of_blank hr, List.append_nil]
    exact ⟨trim (x ++ p), by rw [normalize_of_blank hr, List.append_nil],
      (hp.prepend x).trimEnd hr⟩
  | false =>
    refine ⟨trimStart (x ++ p), ?_, hp.prepend x⟩
    have hs := startsInWord_normalize hr
    have he := endsInWord_normalize hr
    have hn : Text.normalize r ≠ [] := by rintro h0; simp [h0] at hs
    rw [← List.append_assoc, trim]
    cases hx : blank (x ++ p) with
    | true =>
      rw [trimStart_append_of_blank hx, trimStart_of_blank hx, trimStart_of_startsInWord hs,
        trimEnd_of_endsInWord he, List.nil_append]
    | false =>
      rw [trimStart_append hx, trimEnd_of_endsInWord]
      rw [endsInWord_append, if_neg hn, he]

end Carries
end Text

theorem Update.strip_append (t s : Text) : strip (some s) (t ++ s) = t := by
  by_cases h : s.isEmpty = true
  · rw [List.isEmpty_iff] at h
    subst h
    simp [strip]
  · simp only [strip, h, Bool.false_eq_true, if_false, Text.dropBack?_eq_some_iff.mpr rfl, Option.getD_some]

/-- A format at a location, which renders titles. -/
structure Template where
  format : Text
  location : Location

namespace Template

def render (w : Template) (b : Text) : Text := Format.render w.format ⟨w.location, b⟩

/-- What a render appends. -/
def suffix (w : Template) : Text := w.render []

/-- What a render appends, before it is normalized. -/
def rest (w : Template) : Text := Format.substitute ⟨w.location, []⟩ w.format

variable {w : Template} (h : Format.tracksSuffix w.format = true)
include h

theorem render_eq (b : Text) : w.render b = Text.normalize (b ++ w.rest) := by
  rw [render, Format.render, Format.substitute_of_tracksSuffix h, rest]

theorem suffix_eq : w.suffix = Text.normalize w.rest := render_eq h []

/-- An update by a format that tracks its suffix. -/
theorem make_eq (t : Text) (previous : Option Text) :
    Update.make w.format ⟨w.location, t⟩ previous =
      ⟨w.render (Update.strip previous t), some w.suffix⟩ := by
  rw [Update.make, if_pos h]
  rfl

theorem carries_render (b : Text) : Text.Carries w.rest b (w.render b) := by
  rw [render_eq h]
  exact .of_render b w.rest

/-- Without the suffix, a text that carries a raw title renders as the raw title does. -/
theorem render_strip {b t : Text} (hc : Text.Carries w.rest b t) :
    w.render (Update.strip (some w.suffix) t) = w.render b := by
  obtain ⟨p, rfl, hp⟩ := hc
  rw [suffix_eq h, Update.strip_append, render_eq h, render_eq h, hp.normalize]

theorem render_trimStart (b : Text) : w.render b.trimStart = w.render b := by
  rw [render_eq h, render_eq h]
  exact Text.normalize_congr (Text.words_trimStart_append b w.rest)

end Template

/-! ### Updates by any format -/

namespace Update
variable (format : Text) (env : Environment) (previous : Option Text)

theorem normalize_title_make :
    Text.normalize (make format env previous).title = (make format env previous).title := by
  unfold make
  split <;> exact Text.normalize_normalize _

/-- The suffix of an update ends its title. -/
theorem suffix_isSuffix_title {t : Text} (h : (make format env previous).suffix = some t) :
    t <:+ (make format env previous).title := by
  cases hf : Format.tracksSuffix format with
  | false => simp [make, hf] at h
  | true =>
    let w : Template := ⟨format, env.location⟩
    have hm : make format env previous = ⟨w.render (strip previous env.title), some w.suffix⟩ :=
      Template.make_eq (w := w) hf env.title previous
    rw [hm] at h ⊢
    obtain ⟨p, hp, -⟩ := Template.carries_render (w := w) hf (strip previous env.title)
    refine ⟨p, ?_⟩
    rw [← Option.some.inj h, Template.suffix_eq (w := w) hf]
    exact hp.symm

end Update
end PageTitle
