import PageTitle.Json.Record

/-!
# Records in any order

An object presents a record if it has the record's members in any order, once each, among others of
other names (`Presents`). Its fields are then found by their names, whatever the order and the others.
-/

namespace PageTitle.Json
variable {names : List Text} {known : List (Text × Json)} {l l' : List (Option Text × Json)}
  {k : Text} {j : Json}

/-- The members of an object whose names are known. -/
def named (m : Text × Json) : Option Text × Json := (some m.1, m.2)

/-- Whether an object has the given members, once each and in any order, among others whose names are
none of those that a record can have. -/
structure Presents (names : List Text) (known : List (Text × Json))
    (l : List (Option Text × Json)) : Prop where
  once : (known.map (·.1)).Nodup
  order : ∃ others : List (Text × Json), l.Perm ((known ++ others).map named) ∧
    ∀ m ∈ others, m.1 ∉ names

theorem membersNamed_append (k : Text) (l l' : List (Option Text × Json)) :
    membersNamed k (l ++ l') = membersNamed k l ++ membersNamed k l' :=
  List.filterMap_append

theorem membersNamed_eq_nil (h : ∀ m ∈ known, m.1 ≠ k) : membersNamed k (known.map named) = [] := by
  rw [membersNamed, List.filterMap_eq_nil_iff]
  intro m hm
  obtain ⟨m', hm', rfl⟩ := List.mem_map.mp hm
  simp [named, h m' hm']

theorem membersNamed_known (h : (known.map (·.1)).Nodup) (k : Text) :
    membersNamed k (known.map named) = (known.lookup k).toList := by
  induction known with
  | nil => rfl
  | cons m known ih =>
    obtain ⟨hm, h⟩ := List.nodup_cons.mp h
    have hcons : membersNamed k ((m :: known).map named) =
        if m.1 = k then m.2 :: membersNamed k (known.map named)
        else membersNamed k (known.map named) := by
      by_cases hk : m.1 = k <;> simp [membersNamed, named, hk]
    rw [hcons]
    by_cases hk : m.1 = k
    · have hnil : membersNamed k (known.map named) = [] :=
        membersNamed_eq_nil fun m' hm' he => hm (List.mem_map.mpr ⟨m', hm', he.trans hk.symm⟩)
      rw [if_pos hk, hnil, ← hk, List.lookup_cons_self]
      rfl
    · rw [if_neg hk, ih h, List.lookup_cons, beq_false_of_ne (Ne.symm hk)]

/-- Looking for a known name finds what the record has there, if it has it. -/
theorem Presents.member? (h : Presents names known l) (hk : k ∈ names) :
    member? l k = some (known.lookup k) := by
  obtain ⟨others, hperm, hother⟩ := h.order
  have hnil : membersNamed k (others.map named) = [] :=
    membersNamed_eq_nil fun m hm he => hother m hm (he ▸ hk)
  have hmembers : (membersNamed k l).Perm (known.lookup k).toList := by
    have h' : (membersNamed k l).Perm (membersNamed k ((known ++ others).map named)) :=
      hperm.filterMap _
    rwa [List.map_append, membersNamed_append, hnil, List.append_nil,
      membersNamed_known h.once] at h'
  rw [Json.member?]
  cases hv : known.lookup k with
  | none =>
    rw [hv] at hmembers
    rw [List.Perm.eq_nil hmembers]
  | some j =>
    rw [hv] at hmembers
    rw [List.perm_singleton.mp hmembers]

theorem Presents.fields? (h : Presents names known l) (names' : List Text)
    (hsub : ∀ k ∈ names', k ∈ names) :
    fields? names' (.object l) = some ⟨true, names'.map fun k => known.lookup k⟩ := by
  obtain ⟨others, hperm, -⟩ := h.order
  have hall : l.all (·.1.isSome) = true := by
    rw [List.all_eq_true]
    intro m hm
    obtain ⟨m', -, rfl⟩ := List.mem_map.mp (hperm.mem_iff.mp hm)
    rfl
  have hvalues : names'.mapM (Json.member? l) = some (names'.map fun k => known.lookup k) := by
    induction names' with
    | nil => rfl
    | cons k names' ih =>
      rw [List.mapM_cons, h.member? (hsub k List.mem_cons_self),
        ih fun k' hk' => hsub k' (List.mem_cons_of_mem k hk')]
      rfl
  rw [Json.fields?, if_pos hall, hvalues]
  rfl

/-- An object without the member of a name presents the record without it. -/
theorem Presents.filter (h : Presents names ((k, j) :: known) l) (hk : k ∈ names) :
    Presents names known (l.filter (·.1 ≠ some k)) := by
  obtain ⟨hm, honce⟩ := List.nodup_cons.mp h.once
  obtain ⟨others, hperm, hother⟩ := h.order
  refine ⟨honce, others, ?_, hother⟩
  have hrest : ∀ m ∈ (known ++ others).map named, decide (m.1 ≠ some k) = true := by
    intro m hm'
    obtain ⟨m, hin, rfl⟩ := List.mem_map.mp hm'
    have hne : m.1 ≠ k := by
      intro he
      rcases List.mem_append.mp hin with hin | hin
      · exact hm (List.mem_map.mpr ⟨m, hin, he⟩)
      · exact hother m hin (he ▸ hk)
    simpa [named] using hne
  have hfilter := hperm.filter fun m => decide (m.1 ≠ some k)
  rwa [List.cons_append, List.map_cons, List.filter_cons_of_neg (by simp [named]),
    List.filter_eq_self.mpr hrest] at hfilter

end PageTitle.Json
