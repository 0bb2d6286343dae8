import PageTitle.Command.Run
import PageTitle.Proofs.FileTree.Kept
import PageTitle.Proofs.Store.Register

/-!
# Saving is all or nothing

`change_all_or_nothing`: options that are saved, or some choices that are changed, are either in the file
or have touched no file, whatever stands at the path (`AllOrNothing`). What fails before the file is
installed leaves the very tree. An installation that fails leaves the directories that it made, which
cannot be seen by loading unless the path steps up through one of them (`failed_save_changes_load`).
-/

namespace PageTitle

namespace Options
variable {o : Options} {l : List Text} {p : Text} {e : PatternError}

theorem split_of_firstInvalid? (h : firstInvalid? l = some (p, e)) :
    ∃ before after, l = before ++ p :: after ∧ (∀ q ∈ before, Pattern.valid q = true) ∧
      Pattern.compile p = .error e := by
  induction l with
  | nil => cases h
  | cons q l ih =>
    rw [firstInvalid?] at h
    split at h
    · next e' hq =>
      cases h
      exact ⟨[], l, rfl, List.forall_mem_nil _, hq⟩
    · next x hq =>
      obtain ⟨before, after, rfl, hbefore, hp⟩ := ih h
      have hv : Pattern.valid q = true := by simp [Pattern.valid, hq, Except.toOption]
      exact ⟨q :: before, after, rfl, List.forall_mem_cons.mpr ⟨hv, hbefore⟩, hp⟩

/-- Of options that are normal, those that a change does not name stay as they are. -/
theorem normalize_change (h : o.normalize = o) (c : OptionsChange) : (o.change c).normalize =
    ⟨(c.format.map Text.normalize).getD o.format, c.whitelist.getD o.whitelist,
      (c.patterns.map (·.filter (!·.isEmpty))).getD o.patterns⟩ := by
  have hf : Text.normalize o.format = o.format := congrArg Options.format h
  have hp : o.patterns.filter (!·.isEmpty) = o.patterns := congrArg Options.patterns h
  rw [normalize, change]
  cases c.format <;> cases c.patterns <;> simp [hf, hp]

end Options

namespace Store
variable {s : Store} {t t' : FileTree} {o : Options}

theorem load_congr (h : t'.read s.path = t.read s.path) : s.load t' = s.load t := by
  rw [load, load, h]

/-- Where no file can be read, the standard options are loaded or none. -/
theorem load_of_no_file (h : ∀ b, t.read s.path ≠ .ok b) :
    s.load t = .ok {} ∨ ∃ cause, s.load t = .error (.file s.path.text cause) := by
  rw [load]
  split
  · exact .inl rfl
  · next e _ _ => exact .inr ⟨e, rfl⟩
  · next b hb => exact absurd hb (h b)

theorem normalize_of_load (h : s.load t = .ok o) : o.normalize = o := by
  rw [load] at h
  split at h
  · cases h
    exact Options.normalize_standard
  · cases h
  · split at h
    · cases h
    · split at h
      · cases h
      · cases h
        exact Options.normalize_normalize _

/-- What saving may come to, in a tree `t`: for options to save or an error for which there are none, what
comes of it, and the tree after it. -/
inductive AllOrNothing (s : Store) (t : FileTree) :
    Except OptionsError Options → Except OptionsError Options → FileTree → Prop
  /-- The file has the options, and all else is as it was but for directories on the way to it. -/
  | saved {o : Options} {t' : FileTree}
      (valid : ∀ p ∈ o.normalize.patterns, Pattern.valid p = true) (writable : t.Writable s.path)
      (load : s.load t' = .ok o.normalize)
      (others : ∀ d ≠ s.path.place, t'.entry? d = t.entry? d ∨
        d ∈ s.path.way ∧ t.entry? d = none ∧ t'.entry? d = some .directory) :
      AllOrNothing s t (.ok o) (.ok o.normalize) t'
  /-- There is nothing to save, and nothing has changed. -/
  | unwanted {e : OptionsError} : AllOrNothing s t (.error e) (.error e) t
  /-- The first pattern that is not valid is named, and nothing has changed. -/
  | invalid {o : Options} {before after : List Text} {p : Text} {cause : PatternError}
      (patterns : o.normalize.patterns = before ++ p :: after)
      (valid : ∀ q ∈ before, Pattern.valid q = true) (compile : Pattern.compile p = .error cause) :
      AllOrNothing s t (.ok o) (.error (.invalidPattern p cause)) t
  /-- No file can be put at the path, and no more than directories on the way to it were made. Loading is as
  it was, unless it found nothing at a path that steps up; then it may fail. -/
  | blocked {o : Options} {cause : FileError} {t' : FileTree}
      (valid : ∀ p ∈ o.normalize.patterns, Pattern.valid p = true) (blocked : ¬ t.Writable s.path)
      (others : t.OnlyMakes s.path.way t')
      (load : s.load t' = s.load t ∨
        s.load t = .ok {} ∧ ∃ cause, s.load t' = .error (.file s.path.text cause))
      (plain : FilePath.parentPart ∉ s.path.parts → t.Grounded → s.load t' = s.load t) :
      AllOrNothing s t (.ok o) (.error (.file s.path.text cause)) t'

theorem saved_of_writable (hv : ∀ p ∈ o.normalize.patterns, Pattern.valid p = true)
    (hw : t.Writable s.path) :
    AllOrNothing s t (.ok o) (s.trySave t o).1 (s.trySave t o).2 := by
  obtain ⟨t', ht, hentry⟩ := hw.install_entry (Utf8.encode o.normalize.fileText)
  have hsave : s.trySave t o = (.ok o.normalize, t') := by
    rw [trySave, Options.invalid?, Options.firstInvalid?_eq_none_iff.mpr hv, ht]
  obtain ⟨t₂, hsave₂, hholds⟩ := trySave_of_valid hw hv
  obtain rfl : t' = t₂ := (Prod.mk.inj (hsave.symm.trans hsave₂)).2
  rw [hsave]
  refine .saved hv hw hholds.load fun d hd => ?_
  rw [hentry, if_neg hd]
  split
  · next hway =>
    cases he : t.entry? d with
    | none => exact .inr ⟨hway, rfl, rfl⟩
    | some e =>
      cases e with
      | directory => exact .inl rfl
      | file b => exact absurd he (hw.free d hway b)
  · exact .inl rfl

theorem blocked_of_not_writable (hv : ∀ p ∈ o.normalize.patterns, Pattern.valid p = true)
    (hw : ¬ t.Writable s.path) :
    AllOrNothing s t (.ok o) (s.trySave t o).1 (s.trySave t o).2 := by
  rcases hinstall : t.install s.path (Utf8.encode o.normalize.fileText) with ⟨cause | _, t'⟩
  · have hsave : s.trySave t o = (.error (.file s.path.text cause), t') := by
      rw [trySave, Options.invalid?, Options.firstInvalid?_eq_none_iff.mpr hv, hinstall]
    rw [hsave, FileTree.install_error hinstall]
    have hmakes := t.onlyMakes_makeParent s.path
    refine .blocked hv hw hmakes ?_ fun hp hg => load_congr (hg.read_makeParent hp)
    rcases t.read_makeParent s.path with heq | hmissing
    · exact .inl (by rw [heq])
    · have hstandard : s.load t = .ok {} := by rw [load, hmissing]
      rcases load_of_no_file fun b hb => hw (hmakes.writable hb) with h | h
      · exact .inl (h.trans hstandard.symm)
      · exact .inr ⟨hstandard, h⟩
  · exact absurd ((FileTree.writable_iff _).mp ⟨t', hinstall⟩) hw

theorem trySave_all_or_nothing (s : Store) (t : FileTree) (o : Options) :
    AllOrNothing s t (.ok o) (s.trySave t o).1 (s.trySave t o).2 := by
  cases hi : o.normalize.invalid? with
  | some pe =>
    obtain ⟨before, after, hpatterns, hvalid, hcompile⟩ := Options.split_of_firstInvalid? hi
    rw [trySave, hi]
    exact .invalid hpatterns hvalid hcompile
  | none =>
    have hv := Options.firstInvalid?_eq_none_iff.mp hi
    by_cases hw : t.Writable s.path
    · exact saved_of_writable hv hw
    · exact blocked_of_not_writable hv hw

/-- Saving options is all or nothing, and so is changing some of those that are loaded, of which the others
stay as they are. -/
theorem change_all_or_nothing (s : Store) (t : FileTree) :
    (∀ o, AllOrNothing s t (.ok o) (s.trySave t o).1 (s.trySave t o).2) ∧
      ∀ (c : OptionsChange) (input : Text),
        AllOrNothing s t ((s.load t).map (·.change c)) (s.tryChange t c).1 (s.tryChange t c).2 ∧
          (∀ o, s.load t = .ok o → (o.change c).normalize =
            ⟨(c.format.map Text.normalize).getD o.format, c.whitelist.getD o.whitelist,
              (c.patterns.map (·.filter (!·.isEmpty))).getD o.patterns⟩) ∧
          (Command.run (.setOptions c) s t input).files = (s.tryChange t c).2 ∧
          (Command.run (.setOptions c) s t input).error = match (s.tryChange t c).1 with
            | .ok _ => none
            | .error e => some e.chain := by
  refine ⟨s.trySave_all_or_nothing t, fun c input => ⟨?_, fun o ho => ?_, ?_, ?_⟩⟩
  · cases hload : s.load t with
    | error e =>
      rw [tryChange, hload]
      exact .unwanted
    | ok o =>
      rw [tryChange, hload]
      exact s.trySave_all_or_nothing t (o.change c)
  · exact Options.normalize_change (normalize_of_load ho) c
  all_goals
    rw [Command.run]
    rcases s.tryChange t c with ⟨e | o, t'⟩ <;> rfl

/-- A directory is made for a file that cannot be there, for the path ends in a slash. -/
theorem change_all_or_nothing_slash :
    let s : Store := ⟨FilePath.ofText [] "/a/b/".toList⟩
    FilePath.parentPart ∉ s.path.parts ∧ FileTree.Grounded {} ∧
      (s.trySave {} {}).1 = .error (.file s.path.text .notDirectory) ∧
      FileTree.entry? (s.trySave {} {}).2 ["a".toList] = some .directory ∧
      s.load (s.trySave {} {}).2 = s.load {} ∧
      s.load {} = .ok {} ∧
      (Options.change {} { whitelist := some true }).normalize = { whitelist := true } := by
  intro s
  have hp : FilePath.parentPart ∉ s.path.parts := by decide
  have hg : FileTree.Grounded {} := by decide
  have hfails : (s.trySave {} {}).1 = .error (.file s.path.text .notDirectory) := rfl
  have h := (change_all_or_nothing s {}).1 {}
  rw [hfails] at h
  refine ⟨hp, hg, hfails, rfl, ?_, rfl,
    ((change_all_or_nothing s {}).2 { whitelist := some true } []).2.1 {} rfl⟩
  generalize (s.trySave {} {}).2 = t' at h ⊢
  cases h with
  | blocked _ _ _ _ plain => exact plain hp hg

/-- At a path that steps up, the directory that a save makes on the way is where the file should go. -/
theorem failed_save_changes_load :
    let s : Store := ⟨FilePath.ofText [] "/a/../a".toList⟩
    s.load {} = .ok {} ∧ (s.trySave {} {}).1 = .error (.file s.path.text .isDirectory) ∧
      s.load (s.trySave {} {}).2 = .error (.file s.path.text .isDirectory) :=
  ⟨rfl, rfl, rfl⟩

end Store
end PageTitle
