import PageTitle.FileTree

/-!
# Paths that can be written

`Writable t p`: a file can be put at the path `p` of the tree `t`, with the directories on its way
(`writable_iff`). What was put there is read back, and writing and removing keep the path writable.
Each walk depends only on the entries at the places that a path leads through (`way`), so the other
entries of a tree do not matter.
-/

namespace PageTitle
namespace FileTree
variable {t t' : FileTree} {place d : List Text} {parts : List Text}

/-! ### Entries -/

@[simp] theorem entry?_nil (t : FileTree) : t.entry? [] = some .directory := rfl

theorem lookup_cons_ite (a : List Text) (e : FileEntry) (l : List (List Text × FileEntry))
    (d : List Text) : ((a, e) :: l).lookup d = if d = a then some e else l.lookup d := by
  by_cases h : d = a
  · simp [h]
  · simp [List.lookup_cons, beq_false_of_ne h, h]

theorem lookup_filter (l : List (List Text × FileEntry)) (place d : List Text) :
    (l.filter (·.1 ≠ place)).lookup d = if d = place then none else l.lookup d := by
  induction l with
  | nil => simp
  | cons e l ih =>
    obtain ⟨a, e⟩ := e
    rw [List.filter_cons, lookup_cons_ite]
    by_cases ha : a = place
    · rw [if_neg (by simp [ha]), ih, ha]
      split <;> rfl
    · rw [if_pos (by simp [ha]), lookup_cons_ite, ih]
      by_cases hd : d = a
      · rw [if_pos hd, if_pos hd, if_neg (hd ▸ ha)]
      · rw [if_neg hd, if_neg hd]

theorem entry?_drop (h : place ≠ []) (d : List Text) :
    FileTree.entry? (t.drop place) d = if d = place then none else t.entry? d := by
  by_cases hd : d = []
  · simp [hd, h.symm]
  · simp only [ entry?, hd, if_false, drop, lookup_filter]

theorem entry?_put (h : place ≠ []) (e : FileEntry) (d : List Text) :
    FileTree.entry? (t.put place e) d = if d = place then some e else t.entry? d := by
  by_cases hd : d = []
  · simp [hd, h.symm]
  · simp only [ entry?, hd, if_false, put, lookup_cons_ite, lookup_filter]
    split <;> rfl

/-! ### The way of a path -/

/-- The places that the parts of a path lead through, from the directory at a place. -/
def way : (place parts : List Text) → List (List Text)
  | _, [] => []
  | place, p :: ps =>
    if p = FilePath.parentPart then way place.dropLast ps
    else (place ++ [p]) :: way (place ++ [p]) ps

/-- The place that the parts of a path lead to. -/
def goal : (place parts : List Text) → List Text
  | place, [] => place
  | place, p :: ps =>
    if p = FilePath.parentPart then goal place.dropLast ps else goal (place ++ [p]) ps

theorem walk_eq_ok_iff : t.walk place parts = .ok d ↔
    goal place parts = d ∧ ∀ d ∈ way place parts, t.entry? d = some .directory := by
  induction parts generalizing place with
  | nil => simp [walk, goal, way]
  | cons p ps ih =>
    rw [walk, goal, way]
    by_cases hp : p = FilePath.parentPart
    · rw [if_pos hp, if_pos hp, if_pos hp]
      exact ih
    · rw [if_neg hp, if_neg hp, if_neg hp, List.forall_mem_cons]
      cases he : t.entry? (place ++ [p]) with
      | none => simp
      | some e =>
        cases e with
        | file b => simp
        | directory => simpa using ih

/-- Where no file is on the way, a walk gets to its goal or misses a directory. -/
theorem walk_of_no_file (h : ∀ d ∈ way place parts, ∀ b, t.entry? d ≠ some (.file b)) :
    t.walk place parts = .ok (goal place parts) ∨ t.walk place parts = .error .missing := by
  induction parts generalizing place with
  | nil => exact .inl rfl
  | cons p ps ih =>
    rw [way] at h
    rw [walk, goal]
    split at h
    · next hp =>
      rw [if_pos hp, if_pos hp]
      exact ih h
    · next hp =>
      rw [if_neg hp, if_neg hp]
      split
      · exact ih fun d hd => h d (List.mem_cons_of_mem _ hd)
      · next b hb => exact absurd hb (h _ List.mem_cons_self b)
      · exact .inr rfl

/-- Where no file is on the way, all places on it become directories, and no other entry changes. -/
theorem makeDirectories_of_no_file {made : Bool}
    (h : ∀ d ∈ way place parts, ∀ b, t.entry? d ≠ some (.file b)) :
    ∃ t', t.makeDirectories made place parts = (.ok (), t') ∧
      ∀ d, t'.entry? d = if d ∈ way place parts then some .directory else t.entry? d := by
  induction parts generalizing t made place with
  | nil => exact ⟨t, rfl, fun d => by simp [way]⟩
  | cons p ps ih =>
    rw [way] at h ⊢
    rw [makeDirectories]
    split at h
    · next hp =>
      rw [if_pos hp, if_pos hp]
      exact ih h
    · next hp =>
      rw [if_neg hp, if_neg hp]
      split
      · next he =>
        obtain ⟨t', ht, hentry⟩ := ih fun d hd => h d (List.mem_cons_of_mem _ hd)
        refine ⟨t', ht, fun d => ?_⟩
        rw [hentry]
        by_cases hd : d = place ++ [p] <;> simp [hd, he]
      · next b hb => exact absurd hb (h _ List.mem_cons_self b)
      · have hne : place ++ [p] ≠ [] := by simp
        have hput := entry?_put (t := t) hne .directory
        have hfree : ∀ d ∈ way (place ++ [p]) ps, ∀ b,
            FileTree.entry? (t.put (place ++ [p]) .directory) d ≠ some (.file b) := by
          intro d hd b
          rw [hput]
          split
          · nofun
          · exact h d (List.mem_cons_of_mem _ hd) b
        obtain ⟨t', ht, hentry⟩ := ih hfree
        refine ⟨t', ht, fun d => ?_⟩
        rw [hentry, hput]
        by_cases hd : d = place ++ [p] <;> simp [hd]

theorem no_file_of_makeDirectories {made : Bool}
    (h : t.makeDirectories made place parts = (.ok (), t')) :
    ∀ d ∈ way place parts, ∀ b, t.entry? d ≠ some (.file b) := by
  induction parts generalizing t made place with
  | nil => nofun
  | cons p ps ih =>
    rw [way]
    rw [makeDirectories] at h
    split at h
    · next hp =>
      rw [if_pos hp]
      exact ih h
    · next hp =>
      rw [if_neg hp]
      split at h
      · next he =>
        intro d hd b
        rcases List.mem_cons.mp hd with rfl | hd
        · simp [he]
        · exact ih h d hd b
      · cases h
      · next he =>
        have hne : place ++ [p] ≠ [] := by simp
        have hput := entry?_put (t := t) hne .directory
        intro d hd b
        rcases List.mem_cons.mp hd with rfl | hd
        · simp [he]
        · have hd' := ih h d hd b
          rw [hput] at hd'
          split at hd'
          · next hdp => simp [hdp, he]
          · exact hd'

theorem goal_concat (place parts : List Text) {name : Text} (h : name ≠ FilePath.parentPart) :
    goal place (parts ++ [name]) = goal place parts ++ [name] := by
  induction parts generalizing place with
  | nil => simp [goal, h]
  | cons p ps ih =>
    rw [List.cons_append, goal, goal]
    split <;> exact ih _

end FileTree

namespace FilePath

/-- The places of the directories that a path leads through. -/
def way (p : FilePath) : List (List Text) := FileTree.way [] p.parts.dropLast

/-- The place of the file at a path. -/
def place (p : FilePath) : List Text := FileTree.goal [] p.parts

/-- Whether a path ends in a name. -/
def Named (p : FilePath) : Prop := ∃ name, p.parts.getLast? = some name ∧ name ≠ parentPart

end FilePath

namespace FileTree
variable {t t' : FileTree} {p : FilePath} {place : List Text} {b : ByteArray} {e : FileError}

/-- Whether a file can be put at a path: it ends in a name, no file is on its way, and no directory is
or has to be where the file goes. -/
structure Writable (t : FileTree) (p : FilePath) : Prop where
  named : p.Named
  noDirectory : p.asDirectory = false
  free : ∀ d ∈ p.way, ∀ b, t.entry? d ≠ some (.file b)
  aside : p.place ∉ p.way
  vacant : t.entry? p.place ≠ some .directory

theorem place_of_named (h : p.Named) : ∃ name, p.parts.getLast? = some name ∧
    name ≠ FilePath.parentPart ∧ p.place = goal [] p.parts.dropLast ++ [name] := by
  obtain ⟨name, hlast, hname⟩ := h
  obtain ⟨ps, hps⟩ := List.getLast?_eq_some_iff.mp hlast
  refine ⟨name, hlast, hname, ?_⟩
  rw [FilePath.place, hps, goal_concat _ _ hname, List.dropLast_concat]

theorem place_ne_nil (h : p.Named) : p.place ≠ [] := by
  obtain ⟨name, -, -, hplace⟩ := place_of_named h
  simp [hplace]

theorem place?_eq_some_iff : t.place? p = .ok (some d) ↔
    p.Named ∧ p.place = d ∧ ∀ d ∈ p.way, t.entry? d = some .directory := by
  rw [place?]
  constructor
  · intro h
    cases hwalk : t.walk [] p.parts.dropLast with
    | error e =>
      rw [hwalk] at h
      cases h
    | ok dir =>
      obtain ⟨hgoal, hway⟩ := walk_eq_ok_iff.mp hwalk
      rw [hwalk] at h
      have h := Except.ok.inj h
      split at h
      · cases h
      · next name hlast =>
        split at h
        · cases h
        · next hname =>
          have hn : p.Named := ⟨name, hlast, hname⟩
          obtain ⟨name', hlast', -, hplace⟩ := place_of_named hn
          obtain rfl : name = name' := Option.some.inj (hlast.symm.trans hlast')
          exact ⟨hn, by rw [hplace, hgoal]; exact Option.some.inj h, hway⟩
  · rintro ⟨hn, rfl, hway⟩
    obtain ⟨name, hlast, hname, hplace⟩ := place_of_named hn
    rw [walk_eq_ok_iff.mpr ⟨rfl, hway⟩, hlast, hplace]
    exact congrArg Except.ok (if_neg hname)

/-! ### Reading, replacing and removing -/

/-- Whether a path can name a file, and the directories on its way are there. -/
structure Reaches (t : FileTree) (p : FilePath) : Prop where
  named : p.Named
  noDirectory : p.asDirectory = false
  way : ∀ d ∈ p.way, t.entry? d = some .directory

/-- An operation that finds the place of a path first succeeds there. -/
theorem bind_place?_eq_ok_iff {α : Type} {a : α} {f : Option (List Text) → Except FileError α}
    (hf : f none ≠ .ok a) : t.place? p >>= f = .ok a ↔
      (p.Named ∧ ∀ d ∈ p.way, t.entry? d = some .directory) ∧ f (some p.place) = .ok a := by
  constructor
  · intro h
    cases hp : t.place? p with
    | error e =>
      rw [hp] at h
      cases h
    | ok d =>
      rw [hp] at h
      cases d with
      | none => exact absurd h hf
      | some d =>
        obtain ⟨hn, rfl, hway⟩ := place?_eq_some_iff.mp hp
        exact ⟨⟨hn, hway⟩, h⟩
  · rintro ⟨⟨hn, hway⟩, h⟩
    rw [place?_eq_some_iff.mpr ⟨hn, rfl, hway⟩]
    exact h

theorem read_eq_ok_iff : t.read p = .ok b ↔ t.Reaches p ∧ t.entry? p.place = some (.file b) := by
  rw [read, bind_place?_eq_ok_iff (by simp)]
  constructor
  · rintro ⟨⟨hn, hway⟩, h⟩
    dsimp only at h
    split at h
    · cases h
    · cases h
    · next b' he =>
      split at h
      · cases h
      · next hd => exact ⟨⟨hn, Bool.eq_false_iff.mpr hd, hway⟩, Except.ok.inj h ▸ he⟩
  · rintro ⟨⟨hn, hd, hway⟩, he⟩
    exact ⟨⟨hn, hway⟩, by simp [hd, he]⟩

theorem replace_eq_ok_iff : t.replace p b = .ok t' ↔
    t.Reaches p ∧ t.entry? p.place ≠ some .directory ∧ t.put p.place (.file b) = t' := by
  rw [replace, bind_place?_eq_ok_iff (by simp)]
  constructor
  · rintro ⟨⟨hn, hway⟩, h⟩
    dsimp only at h
    split at h
    · cases h
    · next hd =>
      split at h
      · cases h
      · next he => exact ⟨⟨hn, Bool.eq_false_iff.mpr hd, hway⟩, he, Except.ok.inj h⟩
  · rintro ⟨⟨hn, hd, hway⟩, he, ht⟩
    refine ⟨⟨hn, hway⟩, ?_⟩
    dsimp only
    rw [if_neg (by simp [hd])]
    split
    · next h => exact absurd h he
    · exact congrArg Except.ok ht

theorem remove_of_read (h : t.read p = .ok b) : t.remove p = .ok (t.drop p.place) := by
  obtain ⟨⟨hn, hd, hway⟩, he⟩ := read_eq_ok_iff.mp h
  rw [remove, bind_place?_eq_ok_iff (by simp)]
  exact ⟨⟨hn, hway⟩, by simp [hd, he]⟩

/-- Removing fails as reading does. -/
theorem remove_of_read_error (h : t.read p = .error e) : t.remove p = .error e := by
  rw [read] at h
  rw [remove]
  rcases hp : t.place? p with e' | _ | d <;> rw [hp] at h
  · cases h
    rfl
  · cases h
    rfl
  · simp only [bind, Except.bind] at h ⊢
    split at h
    · cases h
      rfl
    · cases h
      rfl
    · split at h
      · next hd =>
        cases h
        exact if_pos hd
      · cases h

/-! ### Drafts -/

theorem length_le_of_mem_entries {x : List Text × FileEntry} {name : Text} (hx : x ∈ t.entries)
    (hname : name ∈ x.1) : name.length ≤ (t.entries.flatMap (·.1)).flatten.length :=
  (List.sublist_flatten_of_mem (List.mem_flatMap.mpr ⟨x, hx, hname⟩)).length_le

theorem ne_of_freshName {x : List Text × FileEntry} (hx : x ∈ t.entries) (directory : List Text) :
    x.1 ≠ directory ++ [t.freshName] := by
  intro h
  have hle : t.freshName.length ≤ _ := length_le_of_mem_entries hx (by simp [h])
  rw [freshName, List.length_append, List.length_replicate] at hle
  have : ".tmp".toList.length = 4 := rfl
  omega

/-- A draft that is removed leaves no trace. -/
theorem drop_put_draft (t : FileTree) (directory : List Text) (e : FileEntry) :
    FileTree.drop (t.put (directory ++ [t.freshName]) e) (directory ++ [t.freshName]) = t := by
  have hf : t.entries.filter (·.1 ≠ directory ++ [t.freshName]) = t.entries :=
    List.filter_eq_self.mpr fun x hx => by simpa using ne_of_freshName hx directory
  simp only [drop, put, List.filter_cons, ne_eq, not_true_eq_false, decide_false]
  rw [hf]
  simp only [Bool.false_eq_true, if_false, hf]

/-- To install a file is to make the directories on its way and to put it in place: the draft is in
neither outcome. -/
theorem install_eq (t : FileTree) (p : FilePath) (b : ByteArray) : t.install p b =
    match t.makeParent p with
    | (.error e, t₁) => (.error e, t₁)
    | (.ok (), t₁) =>
      match t₁.replace p b with
      | .error e => (.error e, t₁)
      | .ok t₂ => (.ok (), t₂) := by
  rw [install]
  rcases t.makeParent p with ⟨e | _, t₁⟩
  · rfl
  · dsimp only
    cases hwalk : t₁.walk [] p.parts.dropLast with
    | error e =>
      have hreplace : t₁.replace p b = .error e := by
        rw [replace, place?, hwalk]
        rfl
      rw [hreplace]
    | ok directory =>
      have hne : directory ++ [t₁.freshName] ≠ [] := by simp
      have hdrop := drop_put_draft t₁ directory (.file b)
      cases hreplace : t₁.replace p b <;> simp [move, entry?_put hne, hdrop, hreplace]

/-! ### Writable paths -/

theorem makeParent_of_no_file (h : ∀ d ∈ p.way, ∀ b, t.entry? d ≠ some (.file b)) :
    ∃ t', t.makeParent p = (.ok (), t') ∧
      ∀ d, t'.entry? d = if d ∈ p.way then some .directory else t.entry? d :=
  makeDirectories_of_no_file h

/-- A file that is put at a writable path stands there, and directories stand on its way; nothing else
has changed. -/
theorem Writable.install_entry (hw : t.Writable p) (b : ByteArray) :
    ∃ t', t.install p b = (.ok (), t') ∧ ∀ d, t'.entry? d =
      if d = p.place then some (.file b) else if d ∈ p.way then some .directory else t.entry? d := by
  obtain ⟨t', hmake, hentry⟩ := makeParent_of_no_file hw.free
  have hreach : t'.Reaches p := ⟨hw.named, hw.noDirectory, fun d hd => by rw [hentry, if_pos hd]⟩
  have hvacant : t'.entry? p.place ≠ some .directory := by
    rw [hentry, if_neg hw.aside]
    exact hw.vacant
  refine ⟨t'.put p.place (.file b), ?_, fun d => ?_⟩
  · have hreplace : t'.replace p b = .ok (t'.put p.place (.file b)) :=
      replace_eq_ok_iff.mpr ⟨hreach, hvacant, rfl⟩
    simp only [install_eq, hmake, hreplace]
  · rw [entry?_put (place_ne_nil hw.named), hentry]

/-- The paths at which a file can be put are the writable ones. -/
theorem writable_iff (b : ByteArray) : (∃ t', t.install p b = (.ok (), t')) ↔ t.Writable p := by
  constructor
  · rintro ⟨t', h⟩
    rw [install_eq] at h
    split at h
    · cases h
    · next t₁ hmake =>
      have hfree : ∀ d ∈ p.way, ∀ b, t.entry? d ≠ some (.file b) := no_file_of_makeDirectories hmake
      obtain ⟨t₂, hmake', hentry⟩ := makeParent_of_no_file hfree
      obtain rfl : t₁ = t₂ := (Prod.mk.inj (hmake.symm.trans hmake')).2
      split at h
      · cases h
      · next t₃ hreplace =>
        obtain ⟨hr, hvacant, -⟩ := replace_eq_ok_iff.mp hreplace
        have haside : p.place ∉ p.way := fun hin => hvacant (by rw [hentry, if_pos hin])
        rw [hentry, if_neg haside] at hvacant
        exact ⟨hr.named, hr.noDirectory, hfree, haside, hvacant⟩
  · intro hw
    obtain ⟨t', h, -⟩ := hw.install_entry b
    exact ⟨t', h⟩

/-- What was written is read, and can be written again. -/
theorem Writable.install (hw : t.Writable p) (b : ByteArray) :
    ∃ t', t.install p b = (.ok (), t') ∧ t'.Writable p ∧ t'.read p = .ok b := by
  obtain ⟨t', ht, hentry⟩ := hw.install_entry b
  have hway {d : List Text} (hd : d ∈ p.way) : t'.entry? d = some .directory := by
    rw [hentry, if_neg fun he : d = p.place => hw.aside (he ▸ hd), if_pos hd]
  have hfile : t'.entry? p.place = some (.file b) := by rw [hentry, if_pos rfl]
  refine ⟨t', ht, ⟨hw.named, hw.noDirectory, fun d hd b' => ?_, hw.aside, ?_⟩,
    read_eq_ok_iff.mpr ⟨⟨hw.named, hw.noDirectory, fun d hd => hway hd⟩, hfile⟩⟩
  · simp [hway hd]
  · simp [hfile]

/-- A file at a writable path can be read, or is missing. -/
theorem Writable.read (hw : t.Writable p) :
    t.read p = .error .missing ∨ ∃ b, t.read p = .ok b := by
  rcases walk_of_no_file hw.free with hwalk | hwalk
  · have hway := (walk_eq_ok_iff.mp hwalk).2
    cases he : t.entry? p.place with
    | none =>
      refine .inl ?_
      rw [FileTree.read, place?_eq_some_iff.mpr ⟨hw.named, rfl, hway⟩]
      simp [bind, Except.bind, he]
    | some e =>
      cases e with
      | directory => exact absurd he hw.vacant
      | file b => exact .inr ⟨b, read_eq_ok_iff.mpr ⟨⟨hw.named, hw.noDirectory, hway⟩, he⟩⟩
  · refine .inl ?_
    rw [FileTree.read, place?, hwalk]
    rfl

/-- What was removed is missing, and can be written. -/
theorem Writable.remove (hw : t.Writable p) (h : t.read p = .ok b) :
    ∃ t', t.remove p = .ok t' ∧ t'.Writable p ∧ t'.read p = .error .missing := by
  have hentry (d : List Text) := entry?_drop (t := t) (place_ne_nil hw.named) d
  have hw' : (t.drop p.place).Writable p := by
    refine ⟨hw.named, hw.noDirectory, fun d hd b => ?_, hw.aside, ?_⟩
    · rw [hentry, if_neg fun he : d = p.place => hw.aside (he ▸ hd)]
      exact hw.free d hd b
    · simp [hentry]
  refine ⟨_, remove_of_read h, hw', hw'.read.resolve_right ?_⟩
  rintro ⟨b', hb⟩
  have hfile := (read_eq_ok_iff.mp hb).2
  rw [hentry, if_pos rfl] at hfile
  cases hfile

end FileTree
end PageTitle
