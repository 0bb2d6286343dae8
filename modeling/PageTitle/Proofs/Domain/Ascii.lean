import PageTitle.Domain.Basic
import PageTitle.Proofs.Text.Visible

/-!
# Domain names in ASCII

A name's form in ASCII holds visible characters only (`visible_toAscii`): a label with none but ASCII
characters holds no forbidden one, and of any other label the Punycode keeps the ASCII characters and
writes all else in letters and digits (`visible_encode`).
-/

namespace PageTitle
namespace Punycode
open Text (Visible VisibleChar)

theorem visible_digit {d : Nat} (h : d < 36) : Visible [digit d] := by
  have hall : ∀ e < 36, Visible [digit e] := by decide
  exact hall d h

theorem visible_digits (bias k q : Nat) : Visible (digits bias k q) := by
  have hpos := threshold_pos
  have hle := threshold_le
  fun_induction digits bias k q with
  | case1 k q hq =>
    have := hle k bias
    exact visible_digit (by omega)
  | case2 k q hq ih =>
    have := hpos k bias
    have := hle k bias
    have hmod := Nat.mod_lt (q - threshold k bias) (show 0 < 36 - threshold k bias by omega)
    exact Text.visible_append.mpr ⟨visible_digit (by omega), ih⟩

/-- Taking a character writes no more than digits. -/
theorem Encoder.visible_pass (basic n : Nat) {e : Encoder} (h : Visible e.out) (c : Char) :
    Visible (e.pass basic n c).out := by
  unfold Encoder.pass
  split
  · exact h
  · split
    · exact Text.visible_append.mpr ⟨h, visible_digits _ _ _⟩
    · exact h

theorem Encoder.visible_foldl (basic n : Nat) (t : Text) {e : Encoder} (h : Visible e.out) :
    Visible (t.foldl (Encoder.pass basic n) e).out := by
  induction t generalizing e with
  | nil => exact h
  | cons c t ih => exact ih (e.visible_pass basic n h c)

theorem visible_encodeFrom (t : Text) (basic : Nat) (points : List Nat) (n : Nat) {e : Encoder}
    (h : Visible e.out) : Visible (encodeFrom t basic n points e).out := by
  induction points generalizing n e with
  | nil => exact h
  | cons m ms ih =>
    rw [encodeFrom]
    split
    · exact ih n h
    · exact ih (m + 1) (Encoder.visible_foldl basic m t h)

theorem visible_encode {t : Text}
    (h : ∀ c ∈ t, c.toNat < 0x80 → VisibleChar c) : Visible (encode t) := by
  have hbasic : Visible (t.filter fun c => c.toNat < 0x80) := by
    intro c hc
    obtain ⟨hc, hlt⟩ := List.mem_filter.mp hc
    exact h c hc (by simpa using hlt)
  rw [encode]
  apply visible_encodeFrom
  show Visible (if (t.filter fun c => c.toNat < 0x80).isEmpty then [] else
    (t.filter fun c => c.toNat < 0x80) ++ ['-'])
  split
  · exact Text.visible_nil
  · exact Text.visible_append.mpr ⟨hbasic, by decide⟩

end Punycode

namespace Domain
open Text (Visible VisibleChar)

/-- Of the ASCII characters, those that no host may hold are all that cannot be seen. -/
theorem visible_of_not_forbidden {c : Char} (h : forbidden c = false) (hc : c.toNat < 0x80) :
    VisibleChar c := by
  simp only [forbidden, Bool.or_eq_false_iff, decide_eq_false_iff_not] at h
  omega

theorem visible_writeLabel {label written : Text} (h : writeLabel? label = some written)
    (hlabel : ∀ c ∈ label, forbidden c = false) : Visible written := by
  unfold writeLabel? at h
  split at h
  · next hascii =>
    cases h
    intro c hc
    exact visible_of_not_forbidden (hlabel c hc) (by simpa using List.all_eq_true.mp hascii c hc)
  · split at h
    · cases h
      refine Text.visible_append.mpr ⟨by decide, Punycode.visible_encode fun c hc hlt => ?_⟩
      exact visible_of_not_forbidden (hlabel c hc) hlt
    · cases h

theorem not_forbidden_of_labels {t : Text} {l : List Text} (h : labels? t = some l) :
    ∀ label ∈ l, ∀ c ∈ label, forbidden c = false := by
  simp only [labels?, Option.bind_eq_bind, Option.bind_eq_some_iff] at h
  obtain ⟨-, -, read, -, h⟩ := h
  split at h
  · cases h
  · next hno =>
    have hl : read = l := by
      split at h
      · cases h
      · split at h
        · cases h
        · exact Option.some.inj h
    subst hl
    intro label hlabel c hc
    cases hf : forbidden c with
    | false => rfl
    | true => exact absurd (List.any_eq_true.mpr ⟨label, hlabel, List.any_eq_true.mpr ⟨c, hc, hf⟩⟩) hno

theorem exists_of_mem_mapM {α β : Type} {f : α → Option β} {l : List α} {l' : List β}
    (h : l.mapM f = some l') {y : β} (hy : y ∈ l') : ∃ x ∈ l, f x = some y := by
  induction l generalizing l' with
  | nil =>
    rw [List.mapM_nil] at h
    cases h
    cases hy
  | cons x l ih =>
    simp only [List.mapM_cons, Option.bind_eq_bind, Option.bind_eq_some_iff, Option.pure_def,
      Option.some.injEq] at h
    obtain ⟨z, hz, zs, hzs, rfl⟩ := h
    rcases List.mem_cons.mp hy with rfl | hy
    · exact ⟨x, List.mem_cons_self, hz⟩
    · obtain ⟨x', hx', hf⟩ := ih hzs hy
      exact ⟨x', List.mem_cons_of_mem x hx', hf⟩

theorem visible_toAscii {t name : Text} (h : toAscii? t = some name) : Visible name := by
  simp only [toAscii?, Option.bind_eq_bind, Option.bind_eq_some_iff, Option.some.injEq] at h
  obtain ⟨l, hl, written, hwritten, rfl⟩ := h
  refine Text.visible_joinWith (by decide) fun w hw => ?_
  obtain ⟨label, hlabel, hw⟩ := exists_of_mem_mapM hwritten hw
  exact visible_writeLabel hw (not_forbidden_of_labels hl label hlabel)

end Domain
end PageTitle
