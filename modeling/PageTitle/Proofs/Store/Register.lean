import PageTitle.Proofs.FileTree.Writable
import PageTitle.Proofs.Store.FileText
import PageTitle.Proofs.Text.Words
import PageTitle.Store.Basic

/-!
# A store is a register

`Store.follows_register`: at a writable path, a store answers loads, saves, changes and clears as a plain
variable that holds the options last saved would (`Register`), whatever their texts are. What a step
keeps is `Holds`: the file has the text of the register's options, or is missing.
-/

namespace PageTitle

namespace Options
variable {o : Options}

theorem firstInvalid?_eq_none_iff {l : List Text} :
    firstInvalid? l = none ↔ ∀ p ∈ l, Pattern.valid p = true := by
  induction l with
  | nil => simp [firstInvalid?]
  | cons p l ih =>
    rw [firstInvalid?, List.forall_mem_cons, ← ih, Pattern.valid]
    split
    · next h => simp [h, Except.toOption]
    · next h => simp [h, Except.toOption]

theorem normalize_normalize (o : Options) : o.normalize.normalize = o.normalize := by
  simp [normalize, Text.normalize_normalize]

theorem normalize_standard : normalize {} = {} := by decide

end Options

namespace Store

/-- What is done with a store. -/
inductive Operation where
  | load
  | save (o : Options)
  | change (c : OptionsChange)
  | clear

/-- What an operation returns: options, unless it fails or removes them. -/
abbrev Outcome := Except OptionsError (Option Options)

/-- The outcomes of operations one after the other, and the state after them. -/
def run {σ : Type} (step : σ → Operation → Outcome × σ) : σ → List Operation → List Outcome × σ
  | x, [] => ([], x)
  | x, op :: ops => ((step x op).1 :: (run step (step x op).2 ops).1, (run step (step x op).2 ops).2)

/-- The outcome of saving, and the tree after it. -/
def settle (t : FileTree) : Except OptionsError (Options × FileTree) → Outcome × FileTree
  | .ok (o, t') => (.ok (some o), t')
  | .error e => (.error e, t)

/-- The outcome of an operation of a store, and the tree after it. -/
def step (s : Store) (t : FileTree) : Operation → Outcome × FileTree
  | .load => ((s.load t).map some, t)
  | .save o => settle t (s.save t o)
  | .change c => settle t (s.change t c)
  | .clear =>
    match s.clear t with
    | .ok t' => (.ok none, t')
    | .error e => (.error e, t)

/-- A variable with the options that were last saved, or none. -/
abbrev Register := Option Options

namespace Register

/-- The options in a register. -/
def value (r : Register) : Options := r.getD {}

/-- Saving in a register fails if a pattern is not valid. -/
def save (r : Register) (o : Options) : Outcome × Register :=
  match o.normalize.invalid? with
  | some (p, e) => (.error (.invalidPattern p e), r)
  | none => (.ok (some o.normalize), some o.normalize)

def step (r : Register) : Operation → Outcome × Register
  | .load => (.ok (some r.value), r)
  | .save o => r.save o
  | .change c => r.save (r.value.change c)
  | .clear => (.ok none, none)

end Register

variable {s : Store} {t : FileTree} {r : Register} {o : Options}

/-- The file of a store has the options of a register, which are normal and valid. -/
structure Holds (s : Store) (t : FileTree) (r : Register) : Prop where
  writable : t.Writable s.path
  contents : t.read s.path = match r with
    | none => .error .missing
    | some o => .ok (Utf8.encode o.fileText)
  normal : r.value.normalize = r.value
  valid : ∀ p ∈ r.value.patterns, Pattern.valid p = true

/-- Whether a store answers all operations as a register does, and what it loads then can be saved as
it is. -/
structure Follows (s : Store) (t : FileTree) (r : Register) : Prop where
  outcomes (ops : List Operation) : (run s.step t ops).1 = (run Register.step r ops).1
  load (ops : List Operation) :
    s.load (run s.step t ops).2 = .ok (run Register.step r ops).2.value
  normal (ops : List Operation) :
    (run Register.step r ops).2.value.normalize = (run Register.step r ops).2.value
  patterns (ops : List Operation) : ∀ p ∈ (run Register.step r ops).2.value.patterns,
    p ≠ [] ∧ Pattern.valid p = true
  again (ops : List Operation) {o : Options} : (run Register.step r ops).2 = some o →
    ∃ t', s.save (run s.step t ops).2 o = .ok (o, t') ∧
      t'.read s.path = (run s.step t ops).2.read s.path

theorem Holds.load (h : s.Holds t r) : s.load t = .ok r.value := by
  rw [Store.load, h.contents]
  cases r with
  | none => rfl
  | some o =>
    simp only [Utf8.decode?_encode, Options.ofFileText?_fileText]
    exact congrArg Except.ok h.normal

theorem trySave_of_valid (hw : t.Writable s.path)
    (hv : ∀ p ∈ o.normalize.patterns, Pattern.valid p = true) :
    ∃ t', s.trySave t o = (.ok o.normalize, t') ∧ s.Holds t' (some o.normalize) := by
  obtain ⟨t', ht, hw', hread⟩ := hw.install (Utf8.encode o.normalize.fileText)
  refine ⟨t', ?_, hw', hread, o.normalize_normalize, hv⟩
  rw [trySave, Options.invalid?, Options.firstInvalid?_eq_none_iff.mpr hv, ht]

theorem save_of_valid (hw : t.Writable s.path)
    (hv : ∀ p ∈ o.normalize.patterns, Pattern.valid p = true) :
    ∃ t', s.save t o = .ok (o.normalize, t') ∧ s.Holds t' (some o.normalize) := by
  obtain ⟨t', ht, h⟩ := trySave_of_valid hw hv
  exact ⟨t', by rw [save, ht], h⟩

/-- Saving has the same outcome, and the file has the register's options after it. -/
theorem Holds.save (h : s.Holds t r) (o : Options) :
    (settle t (s.save t o)).1 = (r.save o).1 ∧
      s.Holds (settle t (s.save t o)).2 (r.save o).2 := by
  rw [Register.save]
  cases hi : o.normalize.invalid? with
  | some pe =>
    rw [Store.save, trySave, hi]
    exact ⟨rfl, h⟩
  | none =>
    obtain ⟨t', ht, h'⟩ := save_of_valid h.writable (Options.firstInvalid?_eq_none_iff.mp hi)
    rw [ht]
    exact ⟨rfl, h'⟩

theorem Holds.clear (h : s.Holds t r) : ∃ t', s.clear t = .ok t' ∧ s.Holds t' none := by
  have hnone {t' : FileTree} (hw : t'.Writable s.path) (hr : t'.read s.path = .error .missing) :
      s.Holds t' none := ⟨hw, hr, Options.normalize_standard, nofun⟩
  cases r with
  | none =>
    refine ⟨t, ?_, h⟩
    rw [Store.clear, FileTree.remove_of_read_error h.contents]
  | some o =>
    obtain ⟨t', ht, hw, hr⟩ := h.writable.remove h.contents
    refine ⟨t', ?_, hnone hw hr⟩
    rw [Store.clear, ht]

/-- One operation has the same outcome, and the file has the register's options after it. -/
theorem Holds.step (h : s.Holds t r) (op : Operation) :
    (s.step t op).1 = (Register.step r op).1 ∧ s.Holds (s.step t op).2 (Register.step r op).2 := by
  cases op with
  | load =>
    rw [Store.step, h.load]
    exact ⟨rfl, h⟩
  | save o => exact h.save o
  | change c =>
    have hc : s.change t c = s.save t (r.value.change c) := by rw [Store.change, h.load]; rfl
    rw [Store.step, hc]
    exact h.save _
  | clear =>
    obtain ⟨t', ht, h'⟩ := h.clear
    rw [Store.step, ht]
    exact ⟨rfl, h'⟩

theorem Holds.run (h : s.Holds t r) (ops : List Operation) :
    (run s.step t ops).1 = (run Register.step r ops).1 ∧
      s.Holds (run s.step t ops).2 (run Register.step r ops).2 := by
  induction ops generalizing t r with
  | nil => exact ⟨rfl, h⟩
  | cons op ops ih =>
    obtain ⟨hout, h'⟩ := h.step op
    obtain ⟨houts, hend⟩ := ih h'
    exact ⟨List.cons_eq_cons.mpr ⟨hout, houts⟩, hend⟩

theorem Holds.follows (h : s.Holds t r) : s.Follows t r where
  outcomes ops := (h.run ops).1
  load ops := (h.run ops).2.load
  normal ops := (h.run ops).2.normal
  patterns ops p hp := by
    refine ⟨?_, (h.run ops).2.valid p hp⟩
    rw [← (h.run ops).2.normal] at hp
    have hne := (List.mem_filter.mp hp).2
    rintro rfl
    cases hne
  again ops o ho := by
    have h' := (h.run ops).2
    rw [ho] at h'
    have hnormal : o.normalize = o := h'.normal
    obtain ⟨t', ht, ht'⟩ := save_of_valid h'.writable (hnormal.symm ▸ h'.valid)
    rw [hnormal] at ht ht'
    exact ⟨t', ht, ht'.contents.trans h'.contents.symm⟩

/-- A store follows a register from a missing file on, and from each successful save on. -/
theorem follows_register (hw : t.Writable s.path) :
    (t.read s.path = .error .missing → s.Follows t none) ∧
      ∀ o : Options, (∀ p ∈ o.normalize.patterns, Pattern.valid p = true) →
        ∃ t', s.save t o = .ok (o.normalize, t') ∧ s.Follows t' (some o.normalize) := by
  refine ⟨fun hr => ?_, fun o hv => ?_⟩
  · have h : s.Holds t none := ⟨hw, hr, Options.normalize_standard, nofun⟩
    exact h.follows
  · obtain ⟨t', ht, h⟩ := save_of_valid hw hv
    exact ⟨t', ht, h.follows⟩

/-- Options with quotes, line ends, backslashes and empty patterns, in a directory that is not there. -/
theorem follows_register_quoted :
    let s : Store := ⟨⟨"/a/b".toList, ["a".toList, "b".toList], false⟩⟩
    let o : Options := ⟨"\"\"\" ''' {title}".toList, true, ["a\r\n\\\\".toList, []]⟩
    ∃ t', s.save {} o = .ok (o.normalize, t') ∧ s.load t' = .ok o.normalize := by
  intro s o
  have hw : FileTree.Writable {} s.path := by
    refine ⟨⟨"b".toList, rfl, by decide⟩, rfl, ?_, by decide, by decide⟩
    intro d hd b
    simp [s, FilePath.way, FileTree.way, FilePath.parentPart] at hd
    subst hd
    simp [ FileTree.entry?]
  obtain ⟨t', ht, h⟩ := (follows_register hw).2 o (by decide +kernel)
  exact ⟨t', ht, h.load []⟩

end Store
end PageTitle
