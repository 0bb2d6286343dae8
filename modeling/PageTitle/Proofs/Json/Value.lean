import PageTitle.Json.Reader
import PageTitle.Proofs.Json.Leaf

/-!
# Values in JSON

The grammar of values as a relation: `Writes (.padded j) t` if `t` is a text of the value `j`, with any
blanks between the tokens. `read?_of_writes`: reading gives back the value that a text writes. A part of
a value is read the same way wherever it stands, so the induction over the grammar goes through one
statement for each kind of part (`Part.Reads`).
-/

namespace PageTitle.Json
variable {c : Char} {t w rest : Text} {j : Json} {token : Token} {r : Reading}

/-- Blanks between tokens. -/
def Blanks (w : Text) : Prop := ∀ c ∈ w, isBlank c = true

/-- What a text can write: a value, a value among blanks, a member of an object, and the items or
members between brackets, of which there is one at least. -/
inductive Part where
  | value (j : Json)
  | padded (j : Json)
  | member (k : Text) (j : Json)
  | items (l : List Json)
  | members (l : List (Option Text × Json))

/-- The texts of the parts of a value. -/
inductive Writes : Part → Text → Prop
  | null : Writes (.value .null) "null".toList
  | bool (b : Bool) : Writes (.value (.bool b)) (if b then "true".toList else "false".toList)
  | number {n : Number} {w : Text} (h : WritesNumber n w) : Writes (.value (.number (some n))) w
  | string {t w : Text} (h : WritesText t w) :
    Writes (.value (.string (some t))) ('"' :: w ++ ['"'])
  | noItems {b : Text} (hb : Blanks b) : Writes (.value (.array [])) ('[' :: b ++ [']'])
  | array {l : List Json} {w : Text} (h : Writes (.items l) w) :
    Writes (.value (.array l)) ('[' :: w ++ [']'])
  | noMembers {b : Text} (hb : Blanks b) : Writes (.value (.object [])) ('\x7b' :: b ++ ['\x7d'])
  | object {l : List (Option Text × Json)} {w : Text} (h : Writes (.members l) w) :
    Writes (.value (.object l)) ('\x7b' :: w ++ ['\x7d'])
  | padded {j : Json} {a b w : Text} (ha : Blanks a) (hb : Blanks b) (h : Writes (.value j) w) :
    Writes (.padded j) (a ++ w ++ b)
  | member {k u : Text} {j : Json} {a b w : Text} (ha : Blanks a) (hb : Blanks b)
      (hk : WritesText k u) (h : Writes (.padded j) w) :
    Writes (.member k j) (a ++ '"' :: u ++ '"' :: b ++ ':' :: w)
  | lastItem {j : Json} {w : Text} (h : Writes (.padded j) w) : Writes (.items [j]) w
  | item {j : Json} {l : List Json} {v w : Text} (h : Writes (.padded j) v)
      (hl : Writes (.items l) w) : Writes (.items (j :: l)) (v ++ ',' :: w)
  | lastMember {k : Text} {j : Json} {w : Text} (h : Writes (.member k j) w) :
    Writes (.members [(some k, j)]) w
  | memberThen {k : Text} {j : Json} {l : List (Option Text × Json)} {v w : Text}
      (h : Writes (.member k j) v) (hl : Writes (.members l) w) :
    Writes (.members ((some k, j) :: l)) (v ++ ',' :: w)

/-! ### Reading token by token -/

/-- What a text makes of what was read in front of it. -/
def scan (r : Reading) (t : Text) : Option Reading := (tokens? t).bind (·.foldlM Reading.next r)

theorem scan_nil (r : Reading) : scan r [] = some r := by
  rw [scan, tokens?]
  rfl

theorem scan_cons {token : Option Token} (h : readToken c t = some (token, rest))
    (hl : rest.length ≤ t.length) :
    scan r (c :: t) = (token.toList.foldlM Reading.next r).bind (scan · rest) := by
  simp only [scan]
  rw [tokens?, h]
  simp only [if_pos hl]
  cases tokens? rest with
  | none => cases token.toList.foldlM Reading.next r <;> rfl
  | some l => simp [List.foldlM_append]

theorem scan_token (h : readToken c t = some (some token, rest)) (hl : rest.length ≤ t.length) :
    scan r (c :: t) = (r.next token).bind (scan · rest) := by
  rw [scan_cons h hl]
  simp

theorem scan_blanks (h : Blanks w) (r : Reading) (t : Text) : scan r (w ++ t) = scan r t := by
  induction w with
  | nil => rfl
  | cons c w ih =>
    have hc : isBlank c = true := h c List.mem_cons_self
    have hread : readToken c (w ++ t) = some (none, w ++ t) := by
      simp only [isBlank, Bool.or_eq_true, decide_eq_true_eq] at hc
      rcases hc with ((rfl | rfl) | rfl) | rfl <;> rfl
    rw [List.cons_append, scan_cons hread (Nat.le_refl _)]
    exact ih fun d hd => h d (List.mem_cons_of_mem c hd)

theorem scan_string (h : WritesText t w) (r : Reading) (rest : Text) :
    scan r ('"' :: w ++ '"' :: rest) = (r.next (.leaf (.string (some t)))).bind (scan · rest) := by
  obtain ⟨parts, hparts, hread⟩ := readString_of_writes h
  have htoken : readToken '"' (w ++ '"' :: rest) = some (some (.leaf (.string (some t))), rest) := by
    rw [← hparts]
    simp [readToken, hread]
  exact scan_token htoken (by simp; omega)

theorem readToken_null (r : Text) :
    readToken 'n' ("ull".toList ++ r) = some (some (.leaf .null), r) := by
  simp [readToken, Text.dropFront?]

theorem readToken_false (r : Text) :
    readToken 'f' ("alse".toList ++ r) = some (some (.leaf (.bool false)), r) := by
  simp [readToken, Text.dropFront?]

theorem readToken_true (r : Text) :
    readToken 't' ("rue".toList ++ r) = some (some (.leaf (.bool true)), r) := by
  simp [readToken, Text.dropFront?]

theorem readToken_number (hc : c = '-' ∨ (Text.digit? 10 c).isSome = true) (r : Text) :
    readToken c r =
      (readNumber (c :: r)).map fun (n, rest) => (some (.leaf (.number n)), rest) := by
  have hblank : ¬ isBlank c = true := by
    intro h
    simp only [isBlank, Bool.or_eq_true, decide_eq_true_eq] at h
    rcases h with ((rfl | rfl) | rfl) | rfl <;> rcases hc with h | h <;> cases h
  unfold readToken
  split
  case h_11 => exact if_neg hblank
  all_goals rcases hc with h | h <;> cases h

theorem scan_number {n : Number} (h : WritesNumber n w) (hrest : EndsNumber rest) (r : Reading) :
    scan r (w ++ rest) = (r.next (.leaf (.number (some n)))).bind (scan · rest) := by
  have hread := readNumber_of_writes h hrest
  obtain ⟨c, w', rfl, hc⟩ := h.head
  rw [List.cons_append] at hread
  have htoken : readToken c (w' ++ rest) = some (some (.leaf (.number (some n))), rest) := by
    rw [readToken_number hc, hread]
    rfl
  exact scan_token htoken (by simp)

/-! ### Reading the parts of a value -/

theorem endsNumber_blanks (h : Blanks w) (hrest : EndsNumber rest) : EndsNumber (w ++ rest) := by
  cases w with
  | nil => exact hrest
  | cons c w =>
    intro d hd
    cases hd
    have hc : isBlank c = true := h c List.mem_cons_self
    simp only [isBlank, Bool.or_eq_true, decide_eq_true_eq] at hc
    rcases hc with ((rfl | rfl) | rfl) | rfl <;> decide

theorem endsNumber_mark (h : c = ',' ∨ c = ']' ∨ c = '\x7d') (t : Text) : EndsNumber (c :: t) := by
  intro d hd
  cases hd
  rcases h with rfl | rfl | rfl <;> decide

/-- What may come next where a value starts. -/
def StartsValue (e : Expected) : Prop := e = .value ∨ e = .valueOrEnd

/-- What may come next where a member starts. -/
def StartsMember (e : Expected) : Prop := e = .key ∨ e = .keyOrEnd

section
variable {e : Expected}

theorem StartsValue.leaf (h : StartsValue e) (stack : List Frame) (j : Json) :
    (Reading.part stack e).next (.leaf j) = some (.complete j stack) := by
  rcases h with rfl | rfl <;> rfl

theorem StartsMember.key (h : StartsMember e) (done : List (Option Text × Json))
    (stack : List Frame) (k : Option Text) :
    (Reading.part (.members done none :: stack) e).next (.leaf (.string k)) =
      some (.part (.members done (some k) :: stack) .colon) := by
  rcases h with rfl | rfl <;> rfl

/-! Each mark between the values is read at once, where it may stand. -/

theorem scan_openArray (h : StartsValue e) (stack : List Frame) (t : Text) :
    scan (.part stack e) ('[' :: t) = scan (.part (.items [] :: stack) .valueOrEnd) t := by
  rw [scan_token (c := '[') rfl (Nat.le_refl _)]
  rcases h with rfl | rfl <;> rfl

theorem scan_openObject (h : StartsValue e) (stack : List Frame) (t : Text) :
    scan (.part stack e) ('\x7b' :: t) = scan (.part (.members [] none :: stack) .keyOrEnd) t := by
  rw [scan_token (c := '\x7b') rfl (Nat.le_refl _)]
  rcases h with rfl | rfl <;> rfl

theorem scan_closeArray (h : e = .separator ∨ e = .valueOrEnd) (done : List Json)
    (stack : List Frame) (t : Text) :
    scan (.part (.items done :: stack) e) (']' :: t) =
      scan (.complete (.array done.reverse) stack) t := by
  rw [scan_token (c := ']') rfl (Nat.le_refl _)]
  rcases h with rfl | rfl <;> rfl

theorem scan_closeObject (h : e = .separator ∨ e = .keyOrEnd) (done : List (Option Text × Json))
    (stack : List Frame) (t : Text) :
    scan (.part (.members done none :: stack) e) ('\x7d' :: t) =
      scan (.complete (.object done.reverse) stack) t := by
  rw [scan_token (c := '\x7d') rfl (Nat.le_refl _)]
  rcases h with rfl | rfl <;> rfl

end

theorem scan_colon (stack : List Frame) (t : Text) :
    scan (.part stack .colon) (':' :: t) = scan (.part stack .value) t := by
  rw [scan_token (c := ':') rfl (Nat.le_refl _)]
  rfl

theorem scan_commaItem (done : List Json) (stack : List Frame) (t : Text) :
    scan (.part (.items done :: stack) .separator) (',' :: t) =
      scan (.part (.items done :: stack) .value) t := by
  rw [scan_token (c := ',') rfl (Nat.le_refl _)]
  rfl

theorem scan_commaMember (done : List (Option Text × Json)) (stack : List Frame) (t : Text) :
    scan (.part (.members done none :: stack) .separator) (',' :: t) =
      scan (.part (.members done none :: stack) .key) t := by
  rw [scan_token (c := ',') rfl (Nat.le_refl _)]
  rfl

/-- What a part does to what was read in front of it, whatever follows. -/
def Part.Reads : Part → Text → Prop
  | .value j, w | .padded j, w => ∀ stack e rest, StartsValue e → EndsNumber rest →
      scan (.part stack e) (w ++ rest) = scan (.complete j stack) rest
  | .member k j, w => ∀ done stack e rest, StartsMember e → EndsNumber rest →
      scan (.part (.members done none :: stack) e) (w ++ rest) =
        scan (.part (.members ((some k, j) :: done) none :: stack) .separator) rest
  | .items l, w => ∀ done stack e rest, StartsValue e →
      scan (.part (.items done :: stack) e) (w ++ ']' :: rest) =
        scan (.complete (.array (done.reverse ++ l)) stack) rest
  | .members l, w => ∀ done stack e rest, StartsMember e →
      scan (.part (.members done none :: stack) e) (w ++ '\x7d' :: rest) =
        scan (.complete (.object (done.reverse ++ l)) stack) rest

namespace Part.Reads
variable {a b k u v : Text} {l : List Json} {m : List (Option Text × Json)}

theorem word (h : ∀ rest, readToken c (w ++ rest) = some (some (.leaf j), rest)) :
    (Part.value j).Reads (c :: w) := by
  intro stack e rest he _
  rw [List.cons_append, scan_token (h rest) (by simp), he.leaf]
  rfl

theorem number {n : Number} (h : WritesNumber n w) :
    (Part.value (.number (some n))).Reads w := by
  intro stack e rest he hrest
  rw [scan_number h hrest, he.leaf]
  rfl

theorem string (h : WritesText t w) :
    (Part.value (.string (some t))).Reads ('"' :: w ++ ['"']) := by
  intro stack e rest he _
  rw [List.append_assoc, List.singleton_append, scan_string h, he.leaf]
  rfl

theorem noItems (hb : Blanks b) : (Part.value (.array [])).Reads ('[' :: b ++ [']']) := by
  intro stack e rest he _
  rw [List.append_assoc, List.singleton_append, List.cons_append, scan_openArray he, scan_blanks hb]
  exact scan_closeArray (.inr rfl) [] stack rest

theorem array (h : (Part.items l).Reads w) : (Part.value (.array l)).Reads ('[' :: w ++ [']']) := by
  intro stack e rest he _
  rw [List.append_assoc, List.singleton_append, List.cons_append, scan_openArray he]
  exact h [] stack .valueOrEnd rest (.inr rfl)

theorem noMembers (hb : Blanks b) :
    (Part.value (.object [])).Reads ('\x7b' :: b ++ ['\x7d']) := by
  intro stack e rest he _
  rw [List.append_assoc, List.singleton_append, List.cons_append, scan_openObject he, scan_blanks hb]
  exact scan_closeObject (.inr rfl) [] stack rest

theorem object (h : (Part.members m).Reads w) :
    (Part.value (.object m)).Reads ('\x7b' :: w ++ ['\x7d']) := by
  intro stack e rest he _
  rw [List.append_assoc, List.singleton_append, List.cons_append, scan_openObject he]
  exact h [] stack .keyOrEnd rest (.inr rfl)

theorem padded (ha : Blanks a) (hb : Blanks b) (h : (Part.value j).Reads w) :
    (Part.padded j).Reads (a ++ w ++ b) := by
  intro stack e rest he hrest
  rw [List.append_assoc, List.append_assoc, scan_blanks ha,
    h stack e _ he (endsNumber_blanks hb hrest), scan_blanks hb]

theorem member (ha : Blanks a) (hb : Blanks b) (hk : WritesText k u) (h : (Part.padded j).Reads w) :
    (Part.member k j).Reads (a ++ '"' :: u ++ '"' :: b ++ ':' :: w) := by
  intro done stack e rest he hrest
  have htext : a ++ '"' :: u ++ '"' :: b ++ ':' :: w ++ rest =
      a ++ ('"' :: u ++ '"' :: (b ++ ':' :: (w ++ rest))) := by simp
  rw [htext, scan_blanks ha, scan_string hk, he.key, Option.bind_some, scan_blanks hb, scan_colon]
  exact h (.members done (some (some k)) :: stack) .value rest (.inl rfl) hrest

theorem lastItem (h : (Part.padded j).Reads w) : (Part.items [j]).Reads w := by
  intro done stack e rest he
  rw [h _ e _ he (endsNumber_mark (by simp) rest), Reading.complete, scan_closeArray (.inl rfl),
    List.reverse_cons]

theorem item (h : (Part.padded j).Reads v) (hl : (Part.items l).Reads w) :
    (Part.items (j :: l)).Reads (v ++ ',' :: w) := by
  intro done stack e rest he
  rw [List.append_assoc, List.cons_append, h _ e _ he (endsNumber_mark (by simp) _),
    Reading.complete, scan_commaItem, hl (j :: done) stack .value rest (.inl rfl),
    List.reverse_cons, List.append_assoc, List.singleton_append]

theorem lastMember (h : (Part.member k j).Reads w) : (Part.members [(some k, j)]).Reads w := by
  intro done stack e rest he
  rw [h _ _ e _ he (endsNumber_mark (by simp) rest), scan_closeObject (.inl rfl), List.reverse_cons]

theorem memberThen (h : (Part.member k j).Reads v) (hm : (Part.members m).Reads w) :
    (Part.members ((some k, j) :: m)).Reads (v ++ ',' :: w) := by
  intro done stack e rest he
  rw [List.append_assoc, List.cons_append, h _ _ e _ he (endsNumber_mark (by simp) _),
    scan_commaMember, hm ((some k, j) :: done) stack .key rest (.inl rfl),
    List.reverse_cons, List.append_assoc, List.singleton_append]

end Part.Reads

theorem Writes.reads {p : Part} (h : Writes p w) : p.Reads w := by
  induction h with
  | null => exact .word readToken_null
  | bool b => cases b with
    | false => exact .word readToken_false
    | true => exact .word readToken_true
  | number h => exact .number h
  | string h => exact .string h
  | noItems hb => exact .noItems hb
  | array _ ih => exact ih.array
  | noMembers hb => exact .noMembers hb
  | object _ ih => exact ih.object
  | padded ha hb _ ih => exact ih.padded ha hb
  | member ha hb hk _ ih => exact ih.member ha hb hk
  | lastItem _ ih => exact ih.lastItem
  | item _ _ ih ihl => exact ih.item ihl
  | lastMember _ ih => exact ih.lastMember
  | memberThen _ _ ih ihl => exact ih.memberThen ihl

/-- Reading gives back the value that a text writes. -/
theorem read?_of_writes (h : Writes (.padded j) t) : read? t = some j := by
  have hscan : scan (.part [] .value) (t ++ []) = scan (.complete j []) [] :=
    h.reads [] .value [] (.inl rfl) nofun
  rw [List.append_nil, scan_nil, scan] at hscan
  rw [read?]
  cases htokens : tokens? t with
  | none =>
    rw [htokens] at hscan
    cases hscan
  | some l =>
    rw [htokens] at hscan
    have hfold : l.foldlM Reading.next (.part [] .value) = some (.whole j) := hscan
    simp [hfold]

/-- Whether all leaves of a part can be told. -/
def Part.sound : Part → Bool
  | .value j | .padded j | .member _ j => j.sound
  | .items l => soundItems l
  | .members l => soundMembers l

/-- A value that a text writes can be told in full. -/
theorem Writes.sound {p : Part} (h : Writes p w) : p.sound = true := by
  induction h with
  | null | bool | number | string | noItems | noMembers => rfl
  | array _ ih | object _ ih | padded _ _ _ ih | member _ _ _ _ ih => exact ih
  | lastItem _ ih => simpa [Part.sound, soundItems] using ih
  | item _ _ ih ihl => simpa [Part.sound, soundItems] using ⟨ih, ihl⟩
  | lastMember _ ih => simpa [Part.sound, soundMembers] using ih
  | memberThen _ _ ih ihl => simpa [Part.sound, soundMembers] using ⟨ih, ihl⟩

end PageTitle.Json
