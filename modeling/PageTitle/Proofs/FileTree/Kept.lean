import PageTitle.Proofs.FileTree.Writable

/-!
# What an installation keeps

Making the directories on the way of a path changes nothing else (`onlyMakes_makeParent`), and if a file
cannot be installed they are all that is new (`install_error`). They can change what is read at the path
only where nothing could be found for want of one (`read_makeParent`), and in a tree whose entries stand in
directories (`Grounded`) only if the path steps up out of one (`Grounded.read_makeParent`).
-/

namespace PageTitle.FileTree
variable {t t' : FileTree} {p : FilePath} {place d : List Text} {parts : List Text} {made : Bool}

/-- Whether each place has what it had, or is one of some places and a directory where nothing was. -/
def OnlyMakes (t : FileTree) (places : List (List Text)) (t' : FileTree) : Prop :=
  ∀ d, t'.entry? d = t.entry? d ∨
    d ∈ places ∧ t.entry? d = none ∧ t'.entry? d = some .directory

/-! ### Directories that are made -/

theorem onlyMakes_makeDirectories :
    t.OnlyMakes (way place parts) (t.makeDirectories made place parts).2 := by
  induction parts generalizing t made place with
  | nil => exact fun d => .inl rfl
  | cons p ps ih =>
    rw [way, makeDirectories]
    split
    · exact ih
    · split
      · intro d
        rcases ih d with h | ⟨hd, h⟩
        · exact .inl h
        · exact .inr ⟨List.mem_cons_of_mem _ hd, h⟩
      · exact fun d => .inl rfl
      · next he =>
        -- one more directory is in the tree that the rest of the way is made in
        have hne : place ++ [p] ≠ [] := by simp
        have hput := entry?_put (t := t) hne .directory
        intro d
        rcases ih (t := t.put (place ++ [p]) .directory) d with h | ⟨hd, hnone, h⟩ <;>
          rw [hput] at *
        · split at h
          · next hdp => exact .inr ⟨by simp [hdp], by rw [hdp, he], h⟩
          · exact .inl h
        · split at hnone
          · cases hnone
          · exact .inr ⟨List.mem_cons_of_mem _ hd, hnone, h⟩

/-- Unless a directory is missing on the way, none is made. -/
theorem makeDirectories_of_walk (h : t.walk place parts ≠ .error .missing) :
    (t.makeDirectories made place parts).2 = t := by
  induction parts generalizing place with
  | nil => rfl
  | cons p ps ih =>
    rw [walk] at h
    rw [makeDirectories]
    split at h
    · next hp =>
      rw [if_pos hp]
      exact ih h
    · next hp =>
      rw [if_neg hp]
      split at h
      · exact ih h
      · rfl
      · exact absurd rfl h

theorem onlyMakes_makeParent (t : FileTree) (p : FilePath) : t.OnlyMakes p.way (t.makeParent p).2 :=
  onlyMakes_makeDirectories

/-- What is left of a file that cannot be installed are directories on its way. -/
theorem install_error {b : ByteArray} {e : FileError} (h : t.install p b = (.error e, t')) :
    t' = (t.makeParent p).2 := by
  rw [install_eq] at h
  split at h
  · next hmake =>
    rw [hmake]
    exact (Prod.mk.inj h).2.symm
  · next hmake =>
    rw [hmake]
    split at h
    · exact (Prod.mk.inj h).2.symm
    · cases h

theorem read_of_walk (h : t.walk [] p.parts.dropLast = .error .missing) :
    t.read p = .error .missing := by
  rw [read, place?, h]
  rfl

theorem read_makeParent (t : FileTree) (p : FilePath) :
    (t.makeParent p).2 = t ∨ t.read p = .error .missing := by
  by_cases h : t.walk [] p.parts.dropLast = .error .missing
  · exact .inr (read_of_walk h)
  · exact .inl (makeDirectories_of_walk h)

/-- If a file can be read after directories were made, one could have been put there. -/
theorem OnlyMakes.writable {b : ByteArray} (h : t.OnlyMakes p.way t') (hr : t'.read p = .ok b) :
    t.Writable p := by
  obtain ⟨⟨hn, hd, hway⟩, hfile⟩ := read_eq_ok_iff.mp hr
  refine ⟨hn, hd, fun d hd b' hb' => ?_, fun hin => ?_, ?_⟩
  · rcases h d with hkept | ⟨-, hnone, -⟩
    · rw [← hkept, hway d hd] at hb'
      cases hb'
    · rw [hnone] at hb'
      cases hb'
  · rw [hway _ hin] at hfile
    cases hfile
  · rcases h p.place with hkept | ⟨-, -, hdirectory⟩
    · simp [← hkept, hfile]
    · rw [hdirectory] at hfile
      cases hfile

/-! ### Plain paths -/

/-- Whether all entries stand in directories. -/
def Grounded (t : FileTree) : Prop := ∀ x ∈ t.entries, t.entry? x.1.dropLast = some .directory

instance : Decidable t.Grounded :=
  inferInstanceAs (Decidable (∀ x ∈ t.entries, t.entry? x.1.dropLast = some .directory))

theorem Grounded.parent (h : t.Grounded) {name : Text} {e : FileEntry}
    (he : t.entry? (place ++ [name]) = some e) : t.entry? place = some .directory := by
  rw [ entry?, if_neg (by simp), List.lookup_eq_some_iff] at he
  obtain ⟨l₁, l₂, hl, -⟩ := he
  have hx : (place ++ [name], e) ∈ t.entries := by simp [hl]
  simpa using h _ hx

theorem Grounded.above (h : t.Grounded) {rest : List Text} (hrest : rest ≠ []) {e : FileEntry}
    (he : t.entry? (place ++ rest) = some e) : t.entry? place = some .directory := by
  induction rest generalizing place with
  | nil => exact absurd rfl hrest
  | cons name rest ih =>
    by_cases hr : rest = []
    · exact h.parent (hr ▸ he)
    · rw [List.append_cons] at he
      exact h.parent (ih hr he)

/-- A path without steps up leads through its own parts one after the other. -/
theorem exists_of_mem_way (hp : FilePath.parentPart ∉ parts) (hd : d ∈ way place parts) :
    ∃ q, q ≠ [] ∧ q <+: parts ∧ d = place ++ q := by
  induction parts generalizing place with
  | nil => cases hd
  | cons p ps ih =>
    simp only [List.mem_cons, not_or] at hp
    rw [way, if_neg (Ne.symm hp.1)] at hd
    rcases List.mem_cons.mp hd with rfl | hd
    · exact ⟨[p], by simp, ⟨ps, rfl⟩, rfl⟩
    · obtain ⟨q, -, hq, rfl⟩ := ih hp.2 hd
      exact ⟨p :: q, by simp, List.cons_prefix_cons.mpr ⟨rfl, hq⟩, by simp⟩

theorem goal_of_plain (hp : FilePath.parentPart ∉ parts) : goal place parts = place ++ parts := by
  induction parts generalizing place with
  | nil => simp [goal]
  | cons p ps ih =>
    simp only [List.mem_cons, not_or] at hp
    rw [goal, if_neg (Ne.symm hp.1), ih hp.2]
    simp

/-- Where a directory is missing, no file stands further on. -/
theorem Grounded.no_file (h : t.Grounded) (hp : FilePath.parentPart ∉ parts)
    (hwalk : t.walk place parts = .error .missing) :
    ∀ d ∈ way place parts, ∀ b, t.entry? d ≠ some (.file b) := by
  induction parts generalizing place with
  | nil => cases hwalk
  | cons p ps ih =>
    simp only [List.mem_cons, not_or] at hp
    rw [way, if_neg (Ne.symm hp.1), List.forall_mem_cons]
    rw [walk, if_neg (Ne.symm hp.1)] at hwalk
    split at hwalk
    · next he => exact ⟨fun b => by simp [he], ih hp.2 hwalk⟩
    · cases hwalk
    · next he =>
      refine ⟨fun b => by simp [he], fun d hd b hb => ?_⟩
      obtain ⟨q, hq, -, rfl⟩ := exists_of_mem_way hp.2 hd
      rw [h.above hq hb] at he
      cases he

theorem exists_missing_of_walk (hfree : ∀ d ∈ way place parts, ∀ b, t.entry? d ≠ some (.file b))
    (hwalk : t.walk place parts = .error .missing) : ∃ d ∈ way place parts, t.entry? d = none := by
  refine Classical.byContradiction fun hne => ?_
  simp only [not_exists, not_and] at hne
  have hall : ∀ d ∈ way place parts, t.entry? d = some .directory := by
    intro d hd
    cases he : t.entry? d with
    | none => exact absurd he (hne d hd)
    | some e =>
      cases e with
      | file b => exact absurd he (hfree d hd b)
      | directory => rfl
  rw [walk_eq_ok_iff.mpr ⟨rfl, hall⟩] at hwalk
  cases hwalk

section Plain
variable (hp : FilePath.parentPart ∉ p.parts)
include hp

theorem named_of_plain (hne : p.parts ≠ []) : p.Named :=
  ⟨p.parts.getLast hne, List.getLast?_eq_some_getLast hne, fun h => hp (h ▸ List.getLast_mem hne)⟩

theorem place_of_plain : p.place = p.parts := (goal_of_plain hp).trans (List.nil_append _)

/-- The file at a path without steps up is below all places on its way. -/
theorem exists_of_mem_way_of_plain (hd : d ∈ p.way) : ∃ rest, rest ≠ [] ∧ p.place = d ++ rest := by
  have hdrop : FilePath.parentPart ∉ p.parts.dropLast := fun hm => hp (List.dropLast_subset _ hm)
  obtain ⟨q, hq, ⟨r, hr⟩, rfl⟩ := exists_of_mem_way hdrop hd
  have hne : p.parts ≠ [] := by
    rintro hnil
    rw [hnil] at hr
    exact hq (List.append_eq_nil_iff.mp hr).1
  refine ⟨r ++ [p.parts.getLast hne], by simp, ?_⟩
  rw [place_of_plain hp, ← List.append_assoc, hr, List.dropLast_concat_getLast]

theorem place_notMem_way : p.place ∉ p.way := by
  intro hin
  obtain ⟨rest, hrest, he⟩ := exists_of_mem_way_of_plain hp hin
  exact hrest (List.self_eq_append_right.mp he)

/-- On a path without steps up, the directories that are made are empty, and nothing is found in them as
nothing was found without them. -/
theorem Grounded.read_makeParent (h : t.Grounded) : FileTree.read (t.makeParent p).2 p = t.read p := by
  by_cases hne : p.parts = []
  · rw [makeParent, hne]
    rfl
  by_cases hwalk : t.walk [] p.parts.dropLast = .error .missing
  · have hfree := h.no_file (fun hm => hp (List.dropLast_subset _ hm)) hwalk
    obtain ⟨d, hd, hnone⟩ := exists_missing_of_walk hfree hwalk
    obtain ⟨t', hmake, hentry⟩ := makeParent_of_no_file hfree
    -- the file would stand below the place that is missing
    have hvacant : t.entry? p.place = none := by
      obtain ⟨rest, hrest, hplace⟩ := exists_of_mem_way_of_plain hp hd
      cases he : t.entry? p.place with
      | none => rfl
      | some e =>
        rw [hplace] at he
        rw [h.above hrest he] at hnone
        cases hnone
    have hreach : ∀ d ∈ p.way, t'.entry? d = some .directory := fun d hd => by rw [hentry, if_pos hd]
    rw [read_of_walk hwalk, hmake, read,
      place?_eq_some_iff.mpr ⟨named_of_plain hp hne, rfl, hreach⟩]
    simp [bind, Except.bind, hentry, place_notMem_way hp, hvacant]
  · rw [makeParent, makeDirectories_of_walk hwalk]

end Plain
end PageTitle.FileTree
