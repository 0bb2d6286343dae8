import PageTitle.Command.Run
import PageTitle.Proofs.Service.Transport

/-!
# Serving messages line by line

A text is lines with their ends and a rest that has none (`exists_lines`), and each line before a rest
is read without what the rest says (`lines_unlines_append`). `serve` therefore replies line by line
(`serve_framed`): each reply is one line that is read as a response, whatever the message was.
-/

namespace PageTitle

/-! ### Lines of an input -/

namespace Text
variable {a : Text} {c : Char}

theorem split_cons {d : Char} (hd : d ≠ c) {part : Text} {parts : List Text}
    (h : split c a = part :: parts) : split c (d :: a) = (d :: part) :: parts := by
  have hs : splitBy (· = c) a = part :: parts := h
  simp only [split, splitBy, hd, decide_false, Bool.false_eq_true, if_false, hs]

theorem split_of_notMem (h : c ∉ a) : split c a = [a] := by
  induction a with
  | nil => rfl
  | cons d a ih =>
    rw [List.mem_cons, not_or] at h
    exact split_cons (Ne.symm h.1) (ih h.2)

theorem split_append (h : c ∉ a) (b : Text) : split c (a ++ c :: b) = a :: split c b := by
  induction a with
  | nil => simp [split, splitBy]
  | cons d a ih =>
    rw [List.mem_cons, not_or] at h
    exact split_cons (Ne.symm h.1) (ih h.2)

theorem lines_of_notMem (h : '\n' ∉ a) : lines a = if a.isEmpty then [] else [a] := by
  rw [lines, split_of_notMem h]
  rfl

/-- A line and its end come before the lines of what follows. -/
theorem lines_append (h : '\n' ∉ a) (b : Text) : lines (a ++ '\n' :: b) = dropReturn a :: lines b := by
  obtain ⟨part, parts, hs⟩ := List.exists_cons_of_ne_nil (splitBy_ne_nil (· = '\n') b)
  have hb : split '\n' b = part :: parts := hs
  rw [lines, split_append h, lines, hb]
  simp

theorem dropReturn_of_notMem (h : '\r' ∉ a) : dropReturn a = a := by
  rw [dropReturn]
  cases hd : dropBack? ['\r'] a with
  | none => rfl
  | some r =>
    rw [dropBack?_eq_some_iff] at hd
    rw [hd] at h
    exact absurd (List.mem_append_right r (List.mem_singleton_self _)) h

end Text

namespace Command
open Text (lines dropReturn)

theorem unlines_append (k l : List Text) : unlines (k ++ l) = unlines k ++ unlines l :=
  List.flatMap_append

theorem unlines_cons_append (a : Text) (l : List Text) (b : Text) :
    unlines (a :: l) ++ b = a ++ '\n' :: (unlines l ++ b) := by
  simp [unlines]

/-- A text is lines with their ends and a rest without an end. -/
theorem exists_lines (t : Text) :
    ∃ (l : List Text) (rest : Text), t = unlines l ++ rest ∧ ∀ a ∈ rest :: l, '\n' ∉ a := by
  induction t with
  | nil => exact ⟨[], [], rfl, by simp⟩
  | cons c t ih =>
    obtain ⟨l, rest, rfl, h⟩ := ih
    by_cases hc : c = '\n'
    · -- the first line is empty
      subst hc
      refine ⟨[] :: l, rest, rfl, ?_⟩
      intro a ha
      rw [List.mem_cons, List.mem_cons] at ha
      rcases ha with rfl | rfl | ha
      · exact h _ List.mem_cons_self
      · exact List.not_mem_nil
      · exact h _ (List.mem_cons_of_mem rest ha)
    have hcons {a : Text} (ha : '\n' ∉ a) : '\n' ∉ c :: a := by
      rw [List.mem_cons, not_or]
      exact ⟨fun h => hc h.symm, ha⟩
    cases l with
    | nil =>
      refine ⟨[], c :: rest, rfl, ?_⟩
      simpa using hcons (h rest List.mem_cons_self)
    | cons a l =>
      refine ⟨(c :: a) :: l, rest, rfl, ?_⟩
      rw [List.forall_mem_cons, List.forall_mem_cons] at h ⊢
      exact ⟨h.1, hcons h.2.1, h.2.2⟩

/-- Lines with their ends are read one by one, and what follows as if it stood alone. -/
theorem lines_unlines_append {l : List Text} (h : ∀ a ∈ l, '\n' ∉ a) (b : Text) :
    lines (unlines l ++ b) = l.map dropReturn ++ lines b := by
  induction l with
  | nil => rfl
  | cons a l ih =>
    rw [List.forall_mem_cons] at h
    rw [unlines_cons_append, Text.lines_append h.1, ih h.2]
    rfl

theorem lines_unlines {l : List Text} (h : ∀ a ∈ l, '\n' ∉ a ∧ '\r' ∉ a) : lines (unlines l) = l := by
  have hl := lines_unlines_append (fun a ha => (h a ha).1) []
  rw [List.append_nil] at hl
  have hid : l.map dropReturn = l.map id :=
    List.map_congr_left fun a ha => Text.dropReturn_of_notMem (h a ha).2
  rw [hl, hid, List.map_id]
  exact List.append_nil l

theorem messages_append (a b : Text) :
    messages (a ++ ['\n'] ++ b) = messages (a ++ ['\n']) ++ messages b := by
  -- with the line end behind it, the rest of the first text is one more line
  obtain ⟨l, rest, rfl, h⟩ := exists_lines a
  have hends : ∀ a ∈ l ++ [rest], '\n' ∉ a := fun a ha => h a (by simpa [or_comm] using ha)
  have hlines : unlines l ++ rest ++ ['\n'] = unlines (l ++ [rest]) := by
    simp [unlines]
  have hb := lines_unlines_append hends b
  have hnil := lines_unlines_append hends []
  rw [List.append_nil] at hnil
  rw [messages, messages, messages, hlines, hb, hnil, ← List.filter_append, List.append_assoc]
  rfl

theorem messages_unlines {l : List Text} {rest : Text} (h : ∀ a ∈ rest :: l, '\n' ∉ a) :
    messages (unlines l ++ rest) = (l.map dropReturn ++ [rest]).filter (!·.blank) := by
  rw [List.forall_mem_cons] at h
  rw [messages, lines_unlines_append h.2, Text.lines_of_notMem h.1, List.filter_append,
    List.filter_append]
  cases rest with
  | nil => rfl
  | cons c rest => rfl

end Command

/-! ### Replies -/

theorem Request.read?_of_unknown {t name : Text} {j rest : Json} (hj : Json.read? t = some j)
    (hn : untag? j = some (name, rest)) (h : name ∉ [constantsName, formatName]) :
    read? t = none := by
  simp only [List.mem_cons, List.not_mem_nil, or_false, not_or] at h
  rw [read?, hj, Option.bind_some, ofJson?, full?]
  -- a value that is not read in full has no name at all
  split
  · simp [hn, h.1, h.2]
  · rfl

namespace Service
variable {options : Except OptionsError Options} {message : Text} {r : Request}

theorem reply_of_answer {response : Response} (hr : Request.read? message = some r)
    (ha : answer options r = .ok response) : reply options message = .ok response.toText := by
  rw [reply, hr]
  simp only [ha]

theorem reply_of_refused {e : OptionsError} (hr : Request.read? message = some r)
    (he : answer options r = .error e) : reply options message = .error (.options e) := by
  rw [reply, hr]
  simp only [he]

end Service

namespace Command
open Text (lines dropReturn)
variable {options : Except OptionsError Options} {message : Text}

theorem replyLine_of_reply {t : Text} (h : Service.reply options message = .ok t) :
    replyLine options message = t := by
  rw [replyLine, h]
  rfl

theorem replyLine_of_error {e : ServiceError} (h : Service.reply options message = .error e) :
    replyLine options message = "null".toList := by
  rw [replyLine, h]
  rfl

theorem replyLine_of_read?_eq_none (h : Request.read? message = none) :
    replyLine options message = "null".toList :=
  replyLine_of_error (e := .malformed) (by rw [Service.reply, h])

/-- A reply is the text of a response that is read back from it. -/
theorem exists_replyLine (options : Except OptionsError Options) (message : Text) :
    ∃ response : Response, replyLine options message = response.toText ∧
      Response.read? response.toText = some response := by
  have hnull : Response.read? (Response.update none).toText = some (.update none) :=
    Response.read?_update none
  cases hr : Request.read? message with
  | none => exact ⟨.update none, replyLine_of_read?_eq_none hr, hnull⟩
  | some r =>
    cases ha : Service.answer options r with
    | error e => exact ⟨.update none, replyLine_of_error (Service.reply_of_refused hr ha), hnull⟩
    | ok response =>
      have ht := Service.reply_of_answer hr ha
      exact ⟨response, replyLine_of_reply ht, Service.read?_answer ha⟩

theorem notMem_replyLine (options : Except OptionsError Options) (message : Text) :
    '\n' ∉ replyLine options message ∧ '\r' ∉ replyLine options message := by
  obtain ⟨response, hr, -⟩ := exists_replyLine options message
  have hu : Json.Unbroken (replyLine options message) := by
    rw [hr]
    exact Json.unbroken_toText response.toJson
  exact ⟨fun h => absurd (hu _ h) (by decide), fun h => absurd (hu _ h) (by decide)⟩

/-- `serve` prints one reply a line for the lines that are not blank: a reply is one line, it is read as
a response, and it is what the renderer replies to its line alone, or null where there is no reply.
Reading the lines of the output gives the replies back, and what follows a line end is answered as if
it stood alone. -/
theorem serve_framed (store : Store) (files : FileTree) :
    let options := store.load files
    let reply := replyLine options
    let output (input : Text) := (run .serve store files input).output
    (∀ input, (run .serve store files input).error = none ∧
      ∃ (l : List Text) (rest : Text), input = unlines l ++ rest ∧ (∀ a ∈ rest :: l, '\n' ∉ a) ∧
        let replies := ((l.map dropReturn ++ [rest]).filter (!·.blank)).map reply
        output input = unlines replies ∧ lines (output input) = replies) ∧
    (∀ line, '\n' ∉ reply line ∧ '\r' ∉ reply line ∧ (Response.read? (reply line)).isSome ∧
      (∀ text, Service.reply options line = .ok text → reply line = text) ∧
      (∀ e, Service.reply options line = .error e → reply line = "null".toList) ∧
      (Json.read? line = none → reply line = "null".toList) ∧
      (∀ j name rest, Json.read? line = some j → Request.untag? j = some (name, rest) →
        name ∉ [Request.constantsName, Request.formatName] → reply line = "null".toList) ∧
      ∀ r, Request.read? line = some r →
        (∀ e, Service.answer options r = .error e → reply line = "null".toList) ∧
        ∀ response, Service.answer options r = .ok response →
          Response.read? (reply line) = some response) ∧
    ∀ a b, output (a ++ ['\n'] ++ b) = output (a ++ ['\n']) ++ output b := by
  intro options reply output
  have hout (input : Text) : output input = unlines ((messages input).map reply) := rfl
  refine ⟨fun input => ⟨rfl, ?_⟩, fun line => ?_, fun a b => ?_⟩
  · obtain ⟨l, rest, rfl, h⟩ := exists_lines input
    refine ⟨l, rest, rfl, h, ?_⟩
    rw [hout, messages_unlines h]
    refine ⟨rfl, lines_unlines fun a ha => ?_⟩
    obtain ⟨line, -, rfl⟩ := List.mem_map.mp ha
    exact notMem_replyLine options line
  · obtain ⟨response, hresponse, hread⟩ := exists_replyLine options line
    obtain ⟨hn, hr⟩ := notMem_replyLine options line
    refine ⟨hn, hr, ?_, fun text ht => replyLine_of_reply ht, fun e he => replyLine_of_error he,
      fun hj => ?_, fun j name rest hj hu hname => ?_,
      fun r hq => ⟨fun e he => ?_, fun response ha => ?_⟩⟩
    · exact Option.isSome_of_eq_some ((congrArg Response.read? hresponse).trans hread)
    · exact replyLine_of_read?_eq_none (by rw [Request.read?, hj]; rfl)
    · exact replyLine_of_read?_eq_none (Request.read?_of_unknown hj hu hname)
    · exact replyLine_of_error (Service.reply_of_refused hq he)
    · have ht : reply line = response.toText := replyLine_of_reply (Service.reply_of_answer hq ha)
      rw [ht]
      exact Service.read?_answer ha
  · rw [hout, hout, hout, messages_append, List.map_append, unlines_append]

set_option maxRecDepth 100000 in
/-- A broken line, one of another name, a blank one and one whose options cannot be read leave the
reply to the last line, which has no end, as it is. -/
theorem serve_framed_broken :
    let store : Store := ⟨⟨['o'], [['o']], false⟩⟩
    let files := FileTree.put {} [['o']] (.file (Utf8.encode "format".toList))
    let title := "\x7b\"name\":\"format_title_update\",\"location\":\x7b\x7d,".toList ++
      "\"filtering_url\":\"\",\"title\":\"\"\x7d".toList
    let refused := "\x7b\n\x7b\"name\":\"x\"\x7d\r\n \r\n".toList ++ title ++ ['\n']
    let constants := "\x7b\"name\":\"get_constants\"\x7d".toList
    (store.load files).toOption = none ∧ (Request.read? title).isSome ∧
      (run .serve store files (refused ++ constants)).output =
        unlines ["null".toList, "null".toList, "null".toList,
          (Response.constants .current).toText] := by
  intro store files title refused constants
  have hrefused : (run .serve store files refused).output =
      unlines ["null".toList, "null".toList, "null".toList] := by decide +kernel
  have hlast : (run .serve store files constants).output =
      unlines [(Response.constants .current).toText] := by decide +kernel
  have happend : (run .serve store files (refused ++ constants)).output =
      (run .serve store files refused).output ++ (run .serve store files constants).output :=
    (serve_framed store files).2.2 _ constants
  refine ⟨by decide +kernel, by decide +kernel, ?_⟩
  rw [happend, hrefused, hlast]
  rfl

end Command
end PageTitle
