import PageTitle.Json.Printer
import PageTitle.Proofs.Json.Value

/-!
# Values in JSON that are printed

What is printed for a text, for null and for a record of values that are printed so is a text of the
value in the sense of `Writes`. No printed value holds a control character, and so none has a line
end in it (`unbroken_toText`).
-/

namespace PageTitle.Json
variable {c : Char} {t w : Text} {j : Json} {n : Nat}

theorem WritesCode.of_digits {ds : List Nat} (hl : w.length = 4)
    (h : w.mapM (Text.digit? 16) = some ds) : WritesCode (Text.ofDigits 16 ds) w := by
  match w, hl with
  | [a, b, c, d], _ => exact .mk h

theorem writesCode_fourDigits (h : n < 0x20) : WritesCode n (fourDigits n) := by
  have hdigits : ∀ n < 0x20, (fourDigits n).length = 4 ∧
      (fourDigits n).mapM (Text.digit? 16) = some [0, 0, n / 16, n % 16] := by decide
  obtain ⟨hl, hd⟩ := hdigits n h
  have hn : Text.ofDigits 16 [0, 0, n / 16, n % 16] = n := by
    simp only [Text.ofDigits, List.foldl_cons, List.foldl_nil]
    omega
  have hcode := WritesCode.of_digits hl hd
  rwa [hn] at hcode

theorem writesChar_charText (c : Char) : WritesChar c (charText c) := by
  unfold charText
  split
  · exact .letter rfl
  · exact .letter rfl
  · exact .letter rfl
  · exact .letter rfl
  · exact .letter rfl
  · next hq hb _ _ _ =>
    split
    · next h => exact .letter (by rw [← Char.ofNat_toNat c, h]; rfl)
    split
    · next h => exact .letter (by rw [← Char.ofNat_toNat c, h]; rfl)
    split
    · next h => exact .code (writesCode_fourDigits h)
    · next h => exact .raw (Nat.le_of_not_lt h) hq hb

theorem writesText_flatMap (t : Text) : WritesText t (t.flatMap charText) := by
  induction t with
  | nil => exact .nil
  | cons c t ih => exact .cons (writesChar_charText c) ih

/-- Whether what is printed for a value is a text of it. -/
def Printed (j : Json) : Prop := Writes (.value j) j.toText

theorem printed_text (t : Text) : Printed (.text t) := .string (writesText_flatMap t)

theorem printed_null : Printed .null := .null

theorem printed_optional (o : Option Text) : Printed (.optional o) := by
  cases o with
  | none => exact printed_null
  | some t => exact printed_text t

theorem Printed.padded (h : Printed j) : Writes (.padded j) j.toText := by
  have h' : Writes (.padded j) ([] ++ j.toText ++ []) := .padded nofun nofun h
  rwa [List.append_nil] at h'

theorem Printed.member (h : Printed j) (k : Text) :
    Writes (.member k j) (quoted k ++ ':' :: j.toText) := by
  have h' := Writes.member (a := []) (b := []) nofun nofun (writesText_flatMap k) h.padded
  simpa [quoted] using h'

theorem writes_membersText (m : Text × Json) (l : List (Text × Json))
    (h : ∀ m' ∈ m :: l, Printed m'.2) :
    Writes (.members ((m :: l).map fun (k, j) => (some k, j)))
      (membersText ((m :: l).map fun (k, j) => (some k, j))) := by
  induction l generalizing m with
  | nil => simpa [membersText] using Writes.lastMember ((h m List.mem_cons_self).member m.1)
  | cons m' l ih =>
    have hm := (h m List.mem_cons_self).member m.1
    have hl := ih m' fun m'' hm' => h m'' (List.mem_cons_of_mem m hm')
    simpa [membersText] using Writes.memberThen hm hl

/-- A record is printed as a text of it if its values are. -/
theorem printed_record (l : List (Text × Json)) (h : ∀ m ∈ l, Printed m.2) :
    Printed (.record l) := by
  cases l with
  | nil => exact .noMembers (b := []) nofun
  | cons m l => simpa [Printed, record, toText] using Writes.object (writes_membersText m l h)

/-! ### Values on one line -/

/-- A text without control characters below the space. -/
def Unbroken (t : Text) : Prop := ∀ c ∈ t, 0x20 ≤ c.toNat

instance (t : Text) : Decidable (Unbroken t) :=
  List.decidableBAll (fun c : Char => 0x20 ≤ c.toNat) t

theorem unbroken_nil : Unbroken [] := nofun

theorem unbroken_cons : Unbroken (c :: t) ↔ 0x20 ≤ c.toNat ∧ Unbroken t := List.forall_mem_cons

theorem unbroken_append {a b : Text} : Unbroken (a ++ b) ↔ Unbroken a ∧ Unbroken b :=
  List.forall_mem_append

theorem unbroken_charText (c : Char) : Unbroken (charText c) := by
  have hdigits : ∀ n < 0x20, Unbroken (fourDigits n) := by decide
  unfold charText
  split
  · decide
  · decide
  · decide
  · decide
  · decide
  · split
    · decide
    split
    · decide
    split
    · next h =>
      rw [unbroken_cons, unbroken_cons]
      exact ⟨by decide, by decide, hdigits _ h⟩
    · next h =>
      rw [unbroken_cons]
      exact ⟨Nat.le_of_not_lt h, unbroken_nil⟩

theorem unbroken_quoted (t : Text) : Unbroken (quoted t) := by
  have ht : Unbroken (t.flatMap charText) := by
    intro d hd
    obtain ⟨c, -, hc⟩ := List.mem_flatMap.mp hd
    exact unbroken_charText c d hc
  rw [quoted, unbroken_cons, unbroken_append]
  exact ⟨by decide, ht, by decide⟩

theorem unbroken_intText (n : Int) : Unbroken (intText n) := by
  have hdecimal : Unbroken (Text.decimal n.natAbs) := by
    intro c hc
    have hd := Nat.isDigit_of_mem_toDigits (by decide) (by decide) hc
    simp only [Char.isDigit, Bool.and_eq_true, decide_eq_true_eq] at hd
    exact Nat.le_trans (by decide) (UInt32.le_iff_toNat_le.mp hd.1)
  rw [intText, unbroken_append]
  refine ⟨?_, hdecimal⟩
  split <;> decide

theorem unbroken_numberText (n : Number) : Unbroken (numberText n) := by
  cases n with
  | integer n => exact unbroken_intText n
  | real n places =>
    rw [numberText, unbroken_append, unbroken_append]
    exact ⟨⟨unbroken_intText n, by decide⟩, unbroken_intText _⟩

mutual

/-- What is printed for a value stands on one line. -/
theorem unbroken_toText : ∀ j : Json, Unbroken j.toText
  | .null => by decide
  | .bool b => by cases b <;> decide
  | .number (some n) => unbroken_numberText n
  | .number none => by decide
  | .string (some t) => unbroken_quoted t
  | .string none => by decide
  | .array l => by
    rw [toText, unbroken_cons, unbroken_append]
    exact ⟨by decide, unbroken_itemsText l, by decide⟩
  | .object l => by
    rw [toText, unbroken_cons, unbroken_append]
    exact ⟨by decide, unbroken_membersText l, by decide⟩

theorem unbroken_itemsText : ∀ l : List Json, Unbroken (itemsText l)
  | [] => unbroken_nil
  | [j] => by
    rw [itemsText]
    exact unbroken_toText j
  | j :: j' :: r => by
    rw [itemsText, unbroken_append, unbroken_cons]
    · exact ⟨unbroken_toText j, by decide, unbroken_itemsText (j' :: r)⟩
    · simp

theorem unbroken_membersText : ∀ l : List (Option Text × Json), Unbroken (membersText l)
  | [] => unbroken_nil
  | [(k, j)] => by
    rw [membersText, unbroken_append, unbroken_cons]
    exact ⟨unbroken_quoted _, by decide, unbroken_toText j⟩
  | (k, j) :: m :: r => by
    rw [membersText, unbroken_append, unbroken_append, unbroken_cons, unbroken_cons]
    · exact ⟨⟨unbroken_quoted _, by decide, unbroken_toText j⟩, by decide,
        unbroken_membersText (m :: r)⟩
    · simp

end

end PageTitle.Json
