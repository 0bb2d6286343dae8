import PageTitle.Proofs.Message.Reading
import PageTitle.Service

/-!
# Messages in JSON

`reply_of_writtenAs`: the reply to any text that writes a request is the answer to the request, under
any options and also where there are none.
-/

namespace PageTitle.Service
variable {options : Except OptionsError Options} {q : Request} {t : Text}

/-- An answer is read back from the text that is printed for it. -/
theorem read?_answer {response : Response} (h : answer options q = .ok response) :
    Response.read? response.toText = some response := by
  cases q with
  | constants =>
    cases h
    exact Response.read?_current
  | format r =>
    cases options with
    | error e => cases h
    | ok o =>
      cases h
      exact Response.read?_update _

/-- The reply to a text that writes a request says what the answer to the request says, or fails as
the answer does. -/
theorem reply_of_writtenAs (options : Except OptionsError Options) (h : q.WrittenAs t) :
    (∀ response, answer options q = .ok response →
      ∃ text, reply options t = .ok text ∧ Response.read? text = some response) ∧
    ∀ e, answer options q = .error e → reply options t = .error (.options e) := by
  have hread := Request.read?_of_writtenAs h
  refine ⟨fun response hr => ⟨response.toText, ?_, read?_answer hr⟩, fun e he => ?_⟩
  · rw [reply, hread]
    simp only [hr]
  · rw [reply, hread]
    simp only [he]

/-- A request with its name at the end, blanks, escapes, a pair of codes, an unknown member and a
location without fields. -/
theorem reply_of_writtenAs_reordered :
    let r : FormatRequest := ⟨{}, [], [Char.ofNat 0x1F600], none⟩
    let t := "\x7b\"x\":[\x7b\x7d],\"title\":\"\\ud83d\\uDE00\",\"filtering_url\":\"\"".toList ++
      ",\"location\":\x7b\x7d, \"n\\u0061me\" : \"format_title_update\"\x7d\n".toList
    ∃ text, reply (.ok {}) t = .ok text ∧
      Response.read? text = some (.update (format {} r)) := by
  intro r t
  have hblank : Json.Blanks [' '] := by simp [Json.Blanks, Json.isBlank]
  have hend : Json.Blanks ['\n'] := by simp [Json.Blanks, Json.isBlank]
  have hempty : Json.Blanks [] := fun _ hc => absurd hc List.not_mem_nil
  have hkey (k : String) := Json.writesText_flatMap k.toList
  have hunknown : Json.Writes (.member "x".toList (.array [.object []])) "\"x\":[\x7b\x7d]".toList :=
    .member hempty hempty (hkey "x") (.padded hempty hempty
      (.array (.lastItem (.padded hempty hempty (.noMembers hempty)))))
  have htitle : Json.Writes (.member "title".toList (.text r.title))
      "\"title\":\"\\ud83d\\uDE00\"".toList := by
    have hhigh := @Json.WritesCode.mk 'd' '8' '3' 'd' [13, 8, 3, 13] rfl
    have hlow := @Json.WritesCode.mk 'D' 'E' '0' '0' [13, 14, 0, 0] rfl
    have hpair : Json.WritesChar (Char.ofNat 0x1F600) "\\ud83d\\uDE00".toList :=
      .pair (by decide) (by decide) (by decide) hhigh hlow
    exact .member hempty hempty (hkey "title") (.padded hempty hempty (.string (.cons hpair .nil)))
  have hurl := (Json.printed_text r.url).member "filtering_url".toList
  have hlocation : Json.Writes (.member "location".toList (.object []))
      "\"location\":\x7b\x7d".toList :=
    .member hempty hempty (hkey "location") (.padded hempty hempty (.noMembers hempty))
  have hname : Json.Writes (.member Request.tag (.text Request.formatName))
      " \"n\\u0061me\" : \"format_title_update\"".toList := by
    have ha : Json.WritesChar 'a' "\\u0061".toList :=
      .code (@Json.WritesCode.mk '0' '0' '6' '1' [0, 0, 6, 1] rfl)
    have hn : Json.WritesText "name".toList "n\\u0061me".toList :=
      .cons (.raw (by decide) (by decide) (by decide)) (.cons ha (hkey "me"))
    exact .member hblank hblank hn (.padded hblank hempty (Json.printed_text Request.formatName))
  have hw := Json.Writes.padded hempty hend (.object (.memberThen hunknown
    (.memberThen htitle (.memberThen hurl (.memberThen hlocation (.lastMember hname))))))
  have ht : Request.WrittenAs (.format r) t := by
    have hfields : Location.PresentedBy r.location (.object []) :=
      .object .nil (fun f _ => by cases f <;> rfl) ⟨.nil, [], .refl _, fun _ hm => absurd hm List.not_mem_nil⟩
    have honce : [Request.tag, "location".toList, "filtering_url".toList, "title".toList].Nodup := by
      decide
    have hother : "x".toList ∉ Request.tag :: FormatRequest.fieldNames := by decide
    refine ⟨_, .format hfields .absent ⟨honce, [("x".toList, .array [.object []])],
      List.reverse_perm _, ?_⟩, Eq.mp (congrArg (Json.Writes _) ?_) hw, by decide⟩
    · intro m hm
      obtain rfl := List.mem_singleton.mp hm
      exact hother
    · decide +kernel
  exact (reply_of_writtenAs (.ok {}) ht).1 (.update (format {} r)) rfl

end PageTitle.Service
