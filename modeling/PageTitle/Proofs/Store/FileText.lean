import PageTitle.Proofs.Toml.Quoted
import PageTitle.Store.FileText

/-!
# Options files that are written and read

`ofFileText?_fileText`: the text that is written for options reads back as the same options.
-/

namespace PageTitle

namespace Toml

/-- A written string starts with a quote. -/
theorem printString_eq_cons (t : Text) :
    ∃ q w, printString t = q :: w ∧ (q = '"' ∨ q = '\'') := by
  unfold printString
  split
  · exact ⟨_, _, rfl, .inl rfl⟩
  · exact ⟨_, _, rfl, .inr rfl⟩
  · exact ⟨_, _, rfl, .inl rfl⟩
  · exact ⟨_, _, rfl, .inr rfl⟩

theorem readValue_printString {rest : Text} (hb : rest.head? ≠ some '"')
    (hl : rest.head? ≠ some '\'') (depth : Nat) (t : Text) :
    readValue depth (printString t ++ rest) = some (.text t, rest) := by
  have hread := readString?_printString hb hl t
  obtain ⟨q, w, hw, rfl | rfl⟩ := printString_eq_cons t <;>
  · rw [hw] at hread ⊢
    simp only [List.cons_append] at hread ⊢
    cases depth <;> simp [readValue, readLeaf, hread]

theorem skipLines_printString (t rest : Text) :
    skipLines false (printString t ++ rest) = printString t ++ rest := by
  obtain ⟨q, w, hw, rfl | rfl⟩ := printString_eq_cons t <;> simp [hw, skipLines]

theorem skipBlank_printString (t rest : Text) :
    skipBlank (printString t ++ rest) = printString t ++ rest := by
  obtain ⟨q, w, hw, rfl | rfl⟩ := printString_eq_cons t <;> simp [hw, skipBlank]

theorem readItems_comma {depth : Nat} {t w r : Text}
    (hs : skipLines false w = printString t ++ ',' :: r) (hl : r.length < w.length) :
    readItems (readValue depth) w =
      (readItems (readValue depth) r).map fun (vs, rest) => (.text t :: vs, rest) := by
  have hread : readValue depth (printString t ++ ',' :: r) = some (.text t, ',' :: r) :=
    readValue_printString (by simp) (by simp) depth t
  rw [readItems, hs]
  obtain ⟨q, w', hw, rfl | rfl⟩ := printString_eq_cons t <;>
  · rw [hw] at hread ⊢
    simp only [List.cons_append] at hread ⊢
    simp [hread, skipLines, hl]

/-- The only item of an array on one line. -/
theorem readItems_singleton (depth : Nat) (t rest : Text) :
    readItems (readValue depth) (printString t ++ ']' :: rest) = some ([.text t], rest) := by
  have hread : readValue depth (printString t ++ ']' :: rest) = some (.text t, ']' :: rest) :=
    readValue_printString (by simp) (by simp) depth t
  rw [readItems, skipLines_printString]
  obtain ⟨q, w', hw, rfl | rfl⟩ := printString_eq_cons t <;>
  · rw [hw] at hread ⊢
    simp only [List.cons_append] at hread ⊢
    simp [hread, skipLines]

/-- The lines of the items of an array, each of which ends with a comma. -/
def itemLines (ts : List Text) : Text :=
  ts.flatMap fun t => ' ' :: ' ' :: ' ' :: ' ' :: printString t ++ [',', '\n']

theorem readItems_itemLines (depth : Nat) (ts : List Text) (rest : Text) :
    readItems (readValue depth) ('\n' :: itemLines ts ++ ']' :: rest) =
      some (ts.map .text, rest) := by
  induction ts with
  | nil => simp [itemLines, readItems, skipLines]
  | cons t ts ih =>
    have hline : itemLines (t :: ts) =
        ' ' :: ' ' :: ' ' :: ' ' :: (printString t ++ ',' :: '\n' :: itemLines ts) := by
      simp [itemLines]
    rw [readItems_comma (t := t) (r := '\n' :: itemLines ts ++ ']' :: rest), ih]
    · rfl
    · rw [← skipLines_printString, hline]
      simp [skipLines]
    · simp only [hline, List.cons_append, List.append_assoc, List.length_cons, List.length_append]
      omega

theorem readValue_printArray (depth : Nat) (ts : List Text) (rest : Text) :
    readValue (depth + 1) (printArray ts ++ rest) = some (.array (ts.map .text), rest) := by
  match ts with
  | [] => simp [printArray, readValue, readItems, skipLines]
  | [t] => simp [printArray, readValue, readItems_singleton depth t rest]
  | t :: u :: ts =>
    have hlines : printArray (t :: u :: ts) ++ rest =
        '[' :: ('\n' :: itemLines (t :: u :: ts) ++ ']' :: rest) := by
      simp [printArray, itemLines]
    rw [hlines, readValue, readItems_itemLines]
    rfl

theorem readWord_printBool (b : Bool) (rest : Text) :
    readWord (printBool b ++ '\n' :: rest) = some (.bool b, '\n' :: rest) := by
  have hw : ∀ c ∈ printBool b, isWordChar c = true := by
    rw [← List.all_eq_true]
    cases b <;> rfl
  have hn : ¬ isWordChar '\n' = true := by decide
  have htake : (printBool b ++ '\n' :: rest).takeWhile isWordChar = printBool b := by
    rw [List.takeWhile_append_of_pos hw, List.takeWhile_cons_of_neg hn, List.append_nil]
  have hdrop : (printBool b ++ '\n' :: rest).dropWhile isWordChar = '\n' :: rest := by
    rw [List.dropWhile_append_of_pos hw, List.dropWhile_cons_of_neg hn]
  rw [readWord, htake, hdrop]
  cases b <;> rfl

theorem readValue_printBool (depth : Nat) (b : Bool) (rest : Text) :
    readValue depth (printBool b ++ '\n' :: rest) = some (.bool b, '\n' :: rest) := by
  rw [← readWord_printBool b rest]
  cases b <;> cases depth <;> rfl

/-! ### Lines -/

/-- A written value stands for a node, up to the end of its line. -/
structure Spells (value : Text) (n : Node) : Prop where
  skipBlank (rest : Text) : skipBlank (value ++ rest) = value ++ rest
  readValue (rest : Text) : readValue maxDepth (value ++ '\n' :: rest) = some (n, '\n' :: rest)

theorem Spells.text (t : Text) : Spells (printString t) (.text t) where
  skipBlank := skipBlank_printString t
  readValue _ := readValue_printString (by simp) (by simp) maxDepth t

theorem Spells.bool (b : Bool) : Spells (printBool b) (.bool b) where
  skipBlank _ := by cases b <;> rfl
  readValue := readValue_printBool maxDepth b

theorem Spells.array (ts : List Text) : Spells (printArray ts) (.array (ts.map .text)) where
  skipBlank _ := by
    match ts with
    | [] | [_] | _ :: _ :: _ => rfl
  readValue rest := readValue_printArray 78 ts ('\n' :: rest)

theorem ne_of_isBareKey {c : Char} (h : isBareKey c = true) :
    c ≠ ' ' ∧ c ≠ '\t' ∧ c ≠ '#' ∧ c ≠ '\n' ∧ c ≠ '\r' ∧ c ≠ '[' := by
  refine ⟨?_, ?_, ?_, ?_, ?_, ?_⟩ <;> rintro rfl <;> cases h

theorem readKey_bare {name : Text} (hname : name ≠ []) (hbare : name.all isBareKey = true)
    (r : Text) : readKey (name ++ ' ' :: '=' :: r) = some (⟨[], name⟩, '=' :: r) := by
  have hchars := List.all_eq_true.mp hbare
  have hn : ¬ isBareKey ' ' = true := by decide
  have htake : (name ++ ' ' :: '=' :: r).takeWhile isBareKey = name := by
    rw [List.takeWhile_append_of_pos hchars, List.takeWhile_cons_of_neg hn, List.append_nil]
  have hdrop : (name ++ ' ' :: '=' :: r).dropWhile isBareKey = ' ' :: '=' :: r := by
    rw [List.dropWhile_append_of_pos hchars, List.dropWhile_cons_of_neg hn]
  have hskip : skipBlank (name ++ ' ' :: '=' :: r) = name ++ ' ' :: '=' :: r := by
    obtain ⟨c, w, rfl⟩ := List.exists_cons_of_ne_nil hname
    obtain ⟨hs, ht, -⟩ := ne_of_isBareKey (hchars c List.mem_cons_self)
    simp [skipBlank, hs, ht]
  have hpart : readPart (name ++ ' ' :: '=' :: r) = some (name, ' ' :: '=' :: r) := by
    rw [readPart, htake, hdrop, if_neg (by simpa using hname)]
  have hparts : readParts (name ++ ' ' :: '=' :: r) = some ([name], '=' :: r) := by
    rw [readParts, hskip, hpart]
    rfl
  rw [readKey, hparts]
  rfl

theorem endLine?_newline (rest : Text) : endLine? ('\n' :: rest) = some rest := rfl

/-- A line that gives a name to a value is one statement. -/
theorem statements?_printLine {name value : Text} {n : Node} (hname : name ≠ [])
    (hbare : name.all isBareKey = true) (hv : Spells value n) (rest : Text) :
    statements? (printLine name value ++ rest) =
      (statements? rest).map (.assign ⟨[], name⟩ n :: ·) := by
  have hline : printLine name value ++ rest =
      name ++ ' ' :: '=' :: ' ' :: (value ++ '\n' :: rest) := by
    simp [printLine]
  obtain ⟨c, w, rfl⟩ := List.exists_cons_of_ne_nil hname
  obtain ⟨hs, ht, hc, hn, hr, hb⟩ := ne_of_isBareKey (List.all_eq_true.mp hbare c List.mem_cons_self)
  have hskip : skipBlank (printLine (c :: w) value ++ rest) = printLine (c :: w) value ++ rest := by
    simp [printLine, skipBlank, hs, ht]
  have hend : endLine? (printLine (c :: w) value ++ rest) = none := by
    rw [endLine?, hskip, hline]
    simp [skipComment, hc, hn, hr]
  have hread : readStatement (printLine (c :: w) value ++ rest) =
      some (.assign ⟨[], c :: w⟩ n, rest) := by
    rw [hline, List.cons_append, readStatement.eq_3 _ (by simp [hb]) (by simp [hb]),
      ← List.cons_append, readKey_bare hname hbare]
    have hvalue : skipBlank (' ' :: (value ++ '\n' :: rest)) = value ++ '\n' :: rest :=
      hv.skipBlank _
    simp [Text.dropFront?, hvalue, hv.readValue, endLine?_newline]
  have hl : rest.length < (printLine (c :: w) value ++ rest).length := by
    simp only [hline, List.length_append, List.length_cons]
    omega
  rw [statements?, if_neg (by simp [printLine]), hend, hskip, hread]
  simp only [if_pos hl]

end Toml

namespace Options
open Toml

/-- The document that options are written as. -/
def members (o : Options) : Members :=
  [(formatKey, .text o.format), (whitelistKey, .bool o.whitelist),
    (patternsKey, .array (o.patterns.map .text))]

theorem read?_fileText (o : Options) : Toml.read? o.fileText = some o.members := by
  have hmark : dropByteOrderMark o.fileText = o.fileText := rfl
  have hlines : statements? o.fileText = some (o.members.map fun m => .assign ⟨[], m.1⟩ m.2) := by
    rw [fileText, List.append_assoc,
      statements?_printLine (by decide) rfl (.text _),
      statements?_printLine (by decide) rfl (.bool _),
      ← List.append_nil (printLine patternsKey _),
      statements?_printLine (by decide) rfl (.array _), statements?]
    rfl
  rw [Toml.read?, hmark, hlines]
  rfl

theorem textsOf?_array (ts : List Text) : textsOf? (.array (ts.map .text)) = some ts := by
  change (ts.map Node.text).mapM textOf? = some ts
  induction ts with
  | nil => rfl
  | cons t ts ih => simp [textOf?, ih]

theorem ofMembers?_members (o : Options) : ofMembers? o.members = some o := by
  have hpatterns : choice? o.members patternsKey textsOf? [] = some o.patterns :=
    textsOf?_array o.patterns
  rw [ofMembers?]
  simp only [hpatterns]
  rfl

theorem ofFileText?_fileText (o : Options) : ofFileText? o.fileText = some o := by
  rw [ofFileText?, read?_fileText, Option.bind_eq_bind, Option.bind_some, ofMembers?_members]

end Options
end PageTitle
