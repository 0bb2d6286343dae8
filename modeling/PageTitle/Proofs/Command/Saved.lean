import Mathlib.Control.Monad.Basic
import PageTitle.Proofs.Format.Normal
import PageTitle.Proofs.Store.Transaction

/-!
# Saved formats

A format that has been saved is normalized, and all else that is loaded is what was saved
(`Store.load_of_trySave`). Since a format renders as its normal form does, a preview by the saved format
is the one by the format as it was given (`preview_of_saved`). A title is rendered by a format that is given
as it would be if that format had been saved, with all that is printed and logged (`render_of_saved`).
-/

namespace PageTitle

namespace Store
variable {s : Store} {t t' : FileTree} {o saved : Options}

theorem load_of_trySave (h : s.trySave t o = (.ok saved, t')) :
    saved = o.normalize ∧ s.load t' = .ok o.normalize := by
  have hall := s.trySave_all_or_nothing t o
  rw [h] at hall
  cases hall with
  | saved _ _ hload _ => exact ⟨rfl, hload⟩

theorem load_of_tryChange {c : OptionsChange} (h : s.tryChange t c = (.ok saved, t')) :
    ∃ o, s.load t = .ok o ∧ saved = (o.change c).normalize ∧
      s.load t' = .ok (o.change c).normalize := by
  rw [tryChange] at h
  cases hload : s.load t with
  | error e =>
    rw [hload] at h
    cases h
  | ok o =>
    rw [hload] at h
    obtain ⟨hsaved, hload'⟩ := load_of_trySave h
    exact ⟨o, rfl, hsaved, hload'⟩

end Store

namespace Command
variable {s : Store} {t : FileTree}

theorem run_setOptions_eq_none {c : OptionsChange} {input : Text}
    (h : (run (.setOptions c) s t input).error = none) :
    ∃ saved, s.tryChange t c = (.ok saved, (run (.setOptions c) s t input).files) := by
  rw [run] at h ⊢
  rcases hc : s.tryChange t c with ⟨e | saved, t'⟩
  · rw [hc] at h
    cases h
  · exact ⟨saved, rfl⟩

/-- The preview by a loaded format is the one by any format with the same normal form. -/
theorem run_preview_of_load {o : Options} {format : Text} (hload : s.load t = .ok o)
    (hf : o.format = Text.normalize format) :
    (s.load t).map Options.format = .ok (Text.normalize format) ∧ ∀ input,
      run (.preview none) s t input = run (.preview (some format)) s t input := by
  constructor
  · rw [hload, ← hf]
    rfl
  · intro input
    have hsaved : run (.preview none) s t input =
        { output := unlines [Format.render o.format Environment.sample], files := t } := by
      rw [run, hload]
      rfl
    rw [hsaved, hf, Format.render_normalize]
    rfl

/-- A format renders as its normal form does; once it has been saved, with other options or by a change of
those that are there, its normal form is what is loaded, and the preview is the one by the format itself. -/
theorem preview_of_saved (s : Store) (format : Text) :
    (∀ env, Format.render (Text.normalize format) env = Format.render format env) ∧
      (∀ t o saved t', s.trySave t o = (.ok saved, t') → o.format = format →
        (s.load t').map Options.format = .ok (Text.normalize format) ∧ ∀ input,
          run (.preview none) s t' input = run (.preview (some format)) s t' input) ∧
      ∀ t c input, (run (.setOptions c) s t input).error = none → c.format = some format →
        let t' := (run (.setOptions c) s t input).files
        (s.load t').map Options.format = .ok (Text.normalize format) ∧ ∀ input,
          run (.preview none) s t' input = run (.preview (some format)) s t' input := by
  refine ⟨Format.render_normalize format, fun t o saved t' hsave hf => ?_,
    fun t c input herror hf => ?_⟩
  · obtain ⟨-, hload⟩ := Store.load_of_trySave hsave
    exact run_preview_of_load hload (congrArg Text.normalize hf)
  · obtain ⟨saved, hchange⟩ := run_setOptions_eq_none herror
    obtain ⟨o, -, -, hload⟩ := Store.load_of_tryChange hchange
    have hn : (o.change c).normalize.format = Text.normalize format := by
      show Text.normalize (c.format.getD o.format) = Text.normalize format
      rw [hf]
      rfl
    exact run_preview_of_load hload hn

/-- A format with blanks of three kinds around a placeholder and in what only looks like one. -/
theorem preview_of_saved_blanks :
    let s : Store := ⟨FilePath.ofText [] "/o".toList⟩
    let format := "\t\x7btitle\x7d\n\n\x7bti tle\x7d ".toList
    let stored := "\x7btitle\x7d \x7bti tle\x7d".toList
    let r := run (.setOptions { format := some format }) s {} []
    (∀ env, Format.render stored env = Format.render format env) ∧
      (∃ saved t', s.trySave {} { format := format } = (.ok saved, t') ∧
        (s.load t').map Options.format = .ok stored ∧
        run (.preview none) s t' [] = run (.preview (some format)) s t' []) ∧
      r.error = none ∧ (s.load r.files).map Options.format = .ok stored ∧
      run (.preview none) s r.files [] = run (.preview (some format)) s r.files [] := by
  intro s format stored r
  obtain ⟨hrender, hsaved, hchanged⟩ := preview_of_saved s format
  have hn : Text.normalize format = stored := by decide +kernel
  rw [hn] at hrender hsaved hchanged
  have hr : r.error = none := by decide +kernel
  have hok : (s.trySave {} { format := format }).1.toBool = true := by decide +kernel
  rcases hsave : s.trySave {} { format := format } with ⟨e | saved, t'⟩
  · rw [hsave] at hok
    cases hok
  · obtain ⟨hload, hrun⟩ := hsaved {} _ saved t' hsave rfl
    obtain ⟨hload', hrun'⟩ := hchanged {} _ [] hr rfl
    exact ⟨hrender, ⟨saved, t', rfl, hload, hrun []⟩, hr, hload', hrun' []⟩

/-! ### Titles -/

/-- Options that load and are valid can be saved with another format just where a file can be put. -/
theorem run_setOptions_format_iff {o : Options} (hload : s.load t = .ok o)
    (hv : ∀ p ∈ o.patterns, Pattern.valid p = true) (format input : Text) :
    (run (.setOptions { format := some format }) s t input).error = none ↔ t.Writable s.path := by
  have hchange : s.tryChange t { format := some format } =
      s.trySave t (o.change { format := some format }) := by rw [Store.tryChange, hload]
  constructor
  · intro herror
    obtain ⟨saved, hsave⟩ := run_setOptions_eq_none herror
    have hall := s.trySave_all_or_nothing t (o.change { format := some format })
    rw [← hchange, hsave] at hall
    cases hall with
    | saved _ hw _ _ => exact hw
  · intro hw
    have hv' : ∀ p ∈ (o.change { format := some format }).normalize.patterns,
        Pattern.valid p = true := fun p hp => hv p (List.mem_filter.mp hp).1
    obtain ⟨t', hsave, -⟩ := Store.trySave_of_valid hw hv'
    rw [run, hchange, hsave]

/-- A given format renders as the saved one of options that are the same otherwise. -/
theorem runRender_given (o : Options) (t t' : FileTree) (url title format : Text)
    (previous : Option Text) :
    runRender { o with format := Text.normalize format } t' url title none previous =
      { runRender o t url title (some format) previous with files := t' } := by
  have ha : Options.accepts { o with format := Text.normalize format } url = o.accepts url := rfl
  rw [runRender, runRender]
  cases Url.parse url with
  | error e => rfl
  | ok page =>
    simp only [ha]
    split <;> rfl

/-- Options that load and are valid can be saved with another format just where a file can be put. Once the
format has been saved by such a change, a title is rendered as it was by the same format when it was given, with
the same output, error and log. -/
theorem render_of_saved (s : Store) (t : FileTree) (format input : Text) :
    (∀ o, s.load t = .ok o → (∀ p ∈ o.patterns, Pattern.valid p = true) →
        ((run (.setOptions { format := some format }) s t input).error = none ↔
          t.Writable s.path)) ∧
      ((run (.setOptions { format := some format }) s t input).error = none →
        let t' := (run (.setOptions { format := some format }) s t input).files
        ∀ url title previous input', run (.render url title none previous) s t' input' =
          { run (.render url title (some format) previous) s t input' with files := t' }) := by
  refine ⟨fun o hload hv => run_setOptions_format_iff hload hv format input,
    fun herror => ?_⟩
  intro t' url title previous input'
  obtain ⟨saved, hchange⟩ := run_setOptions_eq_none herror
  obtain ⟨o, hload, -, hload'⟩ := Store.load_of_tryChange hchange
  rw [Options.normalize_change (Store.normalize_of_load hload)] at hload'
  have hsaved : run (.render url title none previous) s t' input' =
      runRender { o with format := Text.normalize format } t' url title none previous := by
    rw [run, hload']
    rfl
  have hgiven : run (.render url title (some format) previous) s t input' =
      runRender o t url title (some format) previous := by rw [run, hload]
  rw [hsaved, hgiven]
  exact runRender_given o t t' url title format previous

/-- A file with a white list of one host. -/
def hostFile : FileTree :=
  FileTree.put {} [['o']] (.file (Utf8.encode
    "url_filter_is_whitelist = true\nurl_filter_regexps = ['::1']\n".toList))

set_option maxRecDepth 100000 in
/-- A format with blanks around its placeholders and quotes of both kinds, over options with a pattern. -/
theorem render_of_saved_quoted :
    let s : Store := ⟨⟨['o'], [['o']], false⟩⟩
    let format := "\t\x7btitle\x7d \n'\"\"\" \x7bprotocol\x7d".toList
    let r := run (.setOptions { format := some format }) s hostFile []
    let url := "http://[::1]/".toList
    hostFile.Writable s.path ∧ r.error = none ∧
      run (.render url ['A'] none none) s r.files [] =
        { run (.render url ['A'] (some format) none) s hostFile [] with files := r.files } ∧
      (run (.render url ['A'] none none) s r.files []).output = "A '\"\"\" http\n".toList := by
  intro s format r url
  obtain ⟨hwritable, hrender⟩ := render_of_saved s hostFile format []
  have hload : s.load hostFile = .ok { whitelist := true, patterns := ["::1".toList] } := by
    decide +kernel
  have hv : ∀ p ∈ ["::1".toList], Pattern.valid p = true := by decide +kernel
  have hr : r.error = none := by decide +kernel
  refine ⟨(hwritable _ hload hv).mp hr, hr, hrender hr url ['A'] none [], ?_⟩
  decide +kernel

end Command
end PageTitle
