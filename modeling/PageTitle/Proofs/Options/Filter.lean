import Mathlib.Data.List.Forall2
import PageTitle.Proofs.Pattern.Match
import PageTitle.Proofs.Store.Register

/-!
# Which addresses options select

`accepts_iff_matched`: a white list selects the addresses in which some pattern matches somewhere, and a black
list the others. Patterns that are empty or not valid count for nothing, so normalization keeps the selection
(`ofOptions_normalize`), and of valid options only the empty patterns are left out (`forall₂_compile`). All
else that `accepts_laws` says follows, since `Matched` depends on the patterns only by which ones there are.
-/

namespace PageTitle
namespace Options
variable {o : Options} {p url : Text} {e : Pattern.Expr Pattern.Atom}

/-- Whether a pattern that is not empty and valid matches somewhere in an address. -/
def Matched (o : Options) (url : Text) : Prop :=
  ∃ p ∈ o.patterns, p ≠ [] ∧ ∃ e, Pattern.compile p = .ok e ∧ e.Occurs url

/-! ### Compiled patterns -/

/-- What a filter keeps of a pattern, if it counts for anything. -/
def compiled? (p : Text) : Option (Pattern.Expr Pattern.Atom) :=
  if p.isEmpty then none else (Pattern.compile p).toOption

theorem ofOptions_eq (o : Options) :
    UrlFilter.ofOptions o = ⟨o.whitelist, o.patterns.filterMap compiled?⟩ := rfl

theorem compiled?_eq_some_iff : compiled? p = some e ↔ p ≠ [] ∧ Pattern.compile p = .ok e := by
  rw [compiled?]
  cases p with
  | nil => simp
  | cons c p => cases Pattern.compile (c :: p) <;> simp [Except.toOption]

theorem ofOptions_normalize (o : Options) :
    UrlFilter.ofOptions o.normalize = UrlFilter.ofOptions o := by
  rw [ofOptions_eq, ofOptions_eq, normalize, List.filterMap_filter]
  congr 2
  funext p
  cases p <;> rfl

/-- Every pattern of normal and valid options is in the filter. -/
theorem forall₂_compile (h : o.normalize.invalid? = none) :
    List.Forall₂ (fun p e => p ≠ [] ∧ Pattern.compile p = .ok e) o.normalize.patterns
      (UrlFilter.ofOptions o.normalize).patterns := by
  have hvalid := firstInvalid?_eq_none_iff.mp h
  have hfull : ∀ p ∈ o.normalize.patterns, p ≠ [] := fun p hp => by
    simpa using (List.mem_filter.mp hp).2
  rw [ofOptions_eq]
  generalize o.normalize.patterns = l at hvalid hfull ⊢
  induction l with
  | nil => exact .nil
  | cons p l ih =>
    obtain ⟨hp, hl⟩ := List.forall_mem_cons.mp hvalid
    obtain ⟨hn, hl'⟩ := List.forall_mem_cons.mp hfull
    obtain ⟨e, he⟩ := Option.isSome_iff_exists.mp hp
    have hcompiled : compiled? p = some e := by rw [compiled?, if_neg (by simpa using hn), he]
    rw [List.filterMap_cons_some hcompiled]
    exact .cons (compiled?_eq_some_iff.mp hcompiled) (ih hl hl')

/-! ### Selected addresses -/

theorem any_found_iff :
    (UrlFilter.ofOptions o).patterns.any (·.found url) = true ↔ o.Matched url := by
  simp only [ofOptions_eq, List.any_eq_true, List.mem_filterMap, compiled?_eq_some_iff,
    Pattern.found_iff, Matched]
  constructor
  · rintro ⟨e, ⟨p, hp, hn, he⟩, hfound⟩
    exact ⟨p, hp, hn, e, he, hfound⟩
  · rintro ⟨p, hp, hn, e, he, hfound⟩
    exact ⟨e, ⟨p, hp, hn, he⟩, hfound⟩

theorem accepts_iff_matched (o : Options) (url : Text) :
    o.accepts url = true ↔ (o.Matched url ↔ o.whitelist = true) := by
  rw [accepts, UrlFilter.accepts, beq_iff_eq, Bool.eq_iff_iff, any_found_iff]
  rfl

theorem accepts_congr {o o' : Options} (hw : o.whitelist = o'.whitelist)
    (hm : o.Matched url ↔ o'.Matched url) : o.accepts url = o'.accepts url := by
  rw [Bool.eq_iff_iff, accepts_iff_matched, accepts_iff_matched, hw, hm]

theorem Matched.of_subset {o o' : Options} (h : o.patterns ⊆ o'.patterns) (hm : o.Matched url) :
    o'.Matched url := by
  obtain ⟨p, hp, hmatch⟩ := hm
  exact ⟨p, h hp, hmatch⟩

theorem accepts_normalize (o : Options) (url : Text) : o.normalize.accepts url = o.accepts url := by
  rw [accepts, ofOptions_normalize, accepts]

/-- Options select an address if and only if they are a white list and some pattern matches somewhere in the
address, or a black list and none does. So normalization does not matter to the selection, nor do the order of
the patterns and how often each one stands; the other kind of list selects the other addresses; with more
patterns a white list selects more and a black list fewer; and of patterns that were normalized and found valid
each one counts. -/
theorem accepts_laws (o : Options) (url : Text) :
    (o.accepts url = true ↔ (o.Matched url ↔ o.whitelist = true)) ∧
      o.normalize.accepts url = o.accepts url ∧
      (∀ l, l ⊆ o.patterns → o.patterns ⊆ l →
        accepts { o with patterns := l } url = o.accepts url) ∧
      accepts { o with whitelist := !o.whitelist } url = !o.accepts url ∧
      (∀ l, o.patterns ⊆ l →
        (o.whitelist = true → o.accepts url = true → accepts { o with patterns := l } url = true) ∧
        (o.whitelist = false → accepts { o with patterns := l } url = true →
          o.accepts url = true)) ∧
      (o.normalize.invalid? = none →
        List.Forall₂ (fun p e => p ≠ [] ∧ Pattern.compile p = .ok e) o.normalize.patterns
          (UrlFilter.ofOptions o.normalize).patterns) := by
  refine ⟨accepts_iff_matched o url, accepts_normalize o url, fun l hl hl' => ?_, ?_,
    fun l hl => ⟨fun hw ha => ?_, fun hw ha => ?_⟩, forall₂_compile⟩
  · exact accepts_congr rfl ⟨.of_subset hl, .of_subset hl'⟩
  · have hflip : ∀ m w : Bool, (m == !w) = !(m == w) := by decide
    exact hflip _ _
  · rw [accepts_iff_matched] at ha ⊢
    exact ⟨fun _ => hw, fun _ => (ha.mpr hw).of_subset hl⟩
  · rw [accepts_iff_matched] at ha ⊢
    exact ⟨fun hm => ha.mp (hm.of_subset hl), fun h => by rw [hw] at h; cases h⟩

/-- A white list with an empty pattern and one that is not valid, then with its patterns turned round and
one of them twice, then with one more; the black list of the same patterns; and valid options that have an
empty pattern. -/
theorem accepts_laws_repeated :
    let o : Options := { whitelist := true, patterns := ["(".toList, [], "a.c".toList] }
    let turned := ["a.c".toList, [], "(".toList, "a.c".toList]
    let more := "z".toList :: o.patterns
    let url := "xabc".toList
    (o.Matched url ↔ o.whitelist = true) ∧ accepts { o with patterns := turned } url = true ∧
      accepts { o with patterns := more } url = true ∧
      accepts { o with whitelist := false } url = false ∧
      accepts { o with whitelist := false } "y".toList = true ∧
      ∃ e, (UrlFilter.ofOptions (normalize { patterns := [[], "a.c".toList] })).patterns = [e] := by
  intro o turned more url
  have ha : o.accepts url = true := by decide +kernel
  obtain ⟨hmatched, -, hsame, hflip, hmore, -⟩ := accepts_laws o url
  obtain ⟨-, -, -, -, hfewer, -⟩ := accepts_laws { o with whitelist := false } "y".toList
  obtain ⟨-, -, -, -, -, hfull⟩ := accepts_laws { patterns := [[], "a.c".toList] } url
  refine ⟨hmatched.mp ha, ?_, ?_, ?_, ?_, ?_⟩
  · exact (hsame turned (by decide) (by decide)).trans ha
  · exact (hmore more (List.subset_cons_self _ _)).1 rfl ha
  · rw [ha] at hflip
    exact hflip
  · exact (hfewer more (List.subset_cons_self _ _)).2 rfl (by decide +kernel)
  · obtain ⟨e, l, -, hnil, hl⟩ := List.forall₂_cons_left_iff.mp (hfull (by decide +kernel))
    rw [List.forall₂_nil_left_iff.mp hnil] at hl
    exact ⟨e, hl⟩

end Options
end PageTitle
