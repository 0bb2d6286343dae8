import PageTitle.Message
import PageTitle.Proofs.Json.Printer
import PageTitle.Proofs.Json.Record

/-!
# Messages that are written and read

`Request.WrittenAs q t` if the text `t` writes the request `q`: an object with the members of the
request in any order among unknown ones. `read?_of_writtenAs`: such a text is read as the request.
Responses are written in one way only, and read back (`read?_toText`).
-/

namespace PageTitle
open Json (Presents Writes Printed)

variable {l : List (Option Text × Json)} {j : Json}

/-! ### Locations -/

namespace Location
variable {a : Location}

/-- The values that may write a location: objects with some of its fields, once each and in any order,
among unknown ones. A field that is not there is empty. -/
inductive PresentedBy (a : Location) : Json → Prop
  | object {fields : List LocationField} {l : List (Option Text × Json)} (honce : fields.Nodup)
      (hempty : ∀ f, f ∉ fields → a.get f = [])
      (h : Presents (LocationField.all.map LocationField.name)
        (fields.map fun f => (f.name, .text (a.get f))) l) : PresentedBy a (.object l)

theorem name_injective {f g : LocationField} (h : f.name = g.name) : f = g := by
  have hf := LocationField.ofName?_name f
  rw [h, LocationField.ofName?_name] at hf
  exact (Option.some.inj hf).symm

theorem lookup_fields (a : Location) (fields : List LocationField) (f : LocationField) :
    (fields.map fun f => (f.name, Json.text (a.get f))).lookup f.name =
      if f ∈ fields then some (.text (a.get f)) else none := by
  induction fields with
  | nil => simp
  | cons g fields ih =>
    by_cases hg : f = g
    · simp [hg]
    · have hname : (f.name == g.name) = false := beq_false_of_ne fun h => hg (name_injective h)
      rw [List.map_cons, List.lookup_cons, hname, ih]
      simp [hg]

theorem ofJson?_of_presentedBy (h : a.PresentedBy j) : ofJson? j = some a := by
  obtain @⟨fields, l, honce, hempty, h⟩ := h
  have hvalue (f : LocationField) : Json.Fields.orElse? [] Json.asText?
      ((fields.map fun f => (f.name, Json.text (a.get f))).lookup f.name) = some (a.get f) := by
    rw [lookup_fields]
    split
    · rfl
    · next hf => rw [hempty f hf]; rfl
  have hvalues (fs : List LocationField) : ((fs.map LocationField.name).map fun k =>
      (fields.map fun f => (f.name, Json.text (a.get f))).lookup k).mapM
        (Json.Fields.orElse? [] Json.asText?) = some (fs.map a.get) := by
    induction fs with
    | nil => rfl
    | cons f fs ih =>
      rw [List.map_cons, List.map_cons, List.mapM_cons, hvalue, ih]
      rfl
  rw [ofJson?, h.fields? _ fun _ hk => hk]
  simp only [Option.bind_eq_bind, Option.bind_some, hvalues]
  rfl

theorem presentedBy_toJson (a : Location) : a.PresentedBy a.toJson := by
  have honce : (LocationField.all.map LocationField.name).Nodup := by decide
  exact .object (by decide) (fun f hf => absurd (LocationField.mem_all f) hf)
    ⟨honce, [], .refl _, nofun⟩

theorem printed_toJson (a : Location) : Printed a.toJson := by
  refine Json.printed_record _ fun m hm => ?_
  obtain ⟨f, -, rfl⟩ := List.mem_map.mp hm
  exact Json.printed_text _

end Location

/-! ### Requests -/

namespace Request

/-- The member for the last suffix, which may be absent or null where there is none. -/
inductive PreviousMembers : Option Text → List (Text × Json) → Prop
  | absent : PreviousMembers none []
  | null : PreviousMembers none [("previous_formatted_title_suffix".toList, .null)]
  | text (t : Text) : PreviousMembers (some t) [("previous_formatted_title_suffix".toList, .text t)]

/-- The values that may write a request: objects with its members, once each and in any order, among
unknown ones. -/
inductive PresentedBy : Request → Json → Prop
  | constants {l : List (Option Text × Json)} (h : Presents [tag] [(tag, .text constantsName)] l) :
    PresentedBy constants (.object l)
  | format {r : FormatRequest} {j : Json} {previous : List (Text × Json)}
      {l : List (Option Text × Json)} (hlocation : r.location.PresentedBy j)
      (hprevious : PreviousMembers r.previous previous)
      (h : Presents (tag :: FormatRequest.fieldNames) ((tag, .text formatName) ::
        ("location".toList, j) :: ("filtering_url".toList, .text r.url) ::
        ("title".toList, .text r.title) :: previous) l) : PresentedBy (format r) (.object l)

/-- Whether a text writes a request, with values that are not nested too deep. -/
def WrittenAs (q : Request) (t : Text) : Prop :=
  ∃ j, q.PresentedBy j ∧ Writes (.padded j) t ∧ j.depth ≤ Json.maxDepth

variable {q : Request} {t : Text}

/-- The name of a request is found wherever it stands. -/
theorem untag?_of_presents {names : List Text} {name : Text} {known : List (Text × Json)}
    (h : Presents (tag :: names) ((tag, .text name) :: known) l) :
    untag? (.object l) = some (name, .object (l.filter (·.1 ≠ some tag))) := by
  have htag := h.member? List.mem_cons_self
  rw [List.lookup_cons_self] at htag
  simp only [untag?, htag, Option.bind_eq_bind, Option.bind_some]
  rfl

/-- The members of a request to render a title, apart from the one that tells its name. -/
theorem ofFields?_lookup {r : FormatRequest} {previous : List (Text × Json)}
    (hlocation : Location.ofJson? j = some r.location)
    (hprevious : PreviousMembers r.previous previous) :
    FormatRequest.ofFields? ⟨true, FormatRequest.fieldNames.map fun k =>
      List.lookup k (("location".toList, j) :: ("filtering_url".toList, .text r.url) ::
        ("title".toList, .text r.title) :: previous)⟩ = some r := by
  have hfields : FormatRequest.ofFields? ⟨true, FormatRequest.fieldNames.map fun k =>
      List.lookup k (("location".toList, j) :: ("filtering_url".toList, .text r.url) ::
        ("title".toList, .text r.title) :: previous)⟩ =
      (Location.ofJson? j).bind fun a => some ⟨a, r.url, r.title, r.previous⟩ := by
    obtain ⟨a, url, title, p⟩ := r
    cases hprevious <;> rfl
  rw [hfields, hlocation]
  rfl

theorem ofJson?_of_presentedBy (h : q.PresentedBy j) (hs : j.sound = true)
    (hd : j.depth ≤ Json.maxDepth) : ofJson? j = some q := by
  have hfull : full? j = some j := if_pos (by simp [hs, hd])
  rw [ofJson?, hfull, Option.bind_eq_bind, Option.bind_some]
  cases h with
  | constants h =>
    rw [untag?_of_presents h]
    rfl
  | @format r location previous l hlocation hprevious h =>
    have hfields := (h.filter List.mem_cons_self).fields? FormatRequest.fieldNames
      fun k hk => List.mem_cons_of_mem tag hk
    have hr := ofFields?_lookup (Location.ofJson?_of_presentedBy hlocation) hprevious
    have hne : formatName ≠ constantsName := by decide
    rw [untag?_of_presents h, Option.bind_eq_bind, Option.bind_some]
    simp only [if_neg hne, if_true, hfields, Option.bind_eq_bind, Option.bind_some, hr]
    rfl

/-- A text that writes a request is read as the request. -/
theorem read?_of_writtenAs (h : q.WrittenAs t) : read? t = some q := by
  obtain ⟨j, hj, ht, hd⟩ := h
  rw [read?, Json.read?_of_writes ht]
  exact ofJson?_of_presentedBy hj ht.sound hd

theorem printed_toJson (q : Request) : Printed q.toJson := by
  cases q with
  | constants => exact Json.printed_record _ (by simp [Json.printed_text])
  | format r =>
    refine Json.printed_record _ fun m hm => ?_
    simp only [FormatRequest.fieldNames, List.zip_cons_cons, List.zip_nil_left, List.cons_append,
      List.nil_append, List.mem_cons, List.not_mem_nil, or_false] at hm
    rcases hm with rfl | rfl | rfl | rfl | rfl
    · exact Json.printed_text _
    · exact r.location.printed_toJson
    · exact Json.printed_text _
    · exact Json.printed_text _
    · exact Json.printed_optional _

/-- Each request is written by the text that is printed for it. -/
theorem writtenAs_toText (q : Request) : q.WrittenAs q.toJson.toText := by
  refine ⟨q.toJson, ?_, q.printed_toJson.padded, ?_⟩
  · cases q with
    | constants => exact .constants ⟨by decide, [], .refl _, nofun⟩
    | format r =>
      have hprevious : PreviousMembers r.previous
          [("previous_formatted_title_suffix".toList, .optional r.previous)] := by
        cases r.previous with
        | none => exact .null
        | some t => exact .text t
      have honce : (tag :: FormatRequest.fieldNames).Nodup := by decide
      exact .format r.location.presentedBy_toJson hprevious ⟨honce, [], .refl _, nofun⟩
  · rcases q with _ | ⟨a, url, title, p⟩
    · decide
    · have hdepth : (format ⟨a, url, title, p⟩).toJson.depth = 2 := by cases p <;> rfl
      rw [hdepth]
      decide

end Request

/-! ### Responses -/

namespace Response

theorem printed_update (u : Update) : Printed u.toJson := by
  refine Json.printed_record _ fun m hm => ?_
  simp only [List.mem_cons, List.not_mem_nil, or_false] at hm
  rcases hm with rfl | rfl
  · exact Json.printed_text _
  · exact Json.printed_optional _

theorem current_fields : Constants.current.fields =
    [("hash".toList, .text Location.sample.hash), ("hostname".toList, .text Location.sample.hostname),
      ("pathname".toList, .text Location.sample.pathname), ("port".toList, .integer 8080),
      ("protocol".toList, .text Location.sample.protocol),
      ("search".toList, .text Location.sample.search)] := rfl

theorem printed_current : Printed Constants.current.toJson := by
  have hport : Printed (.integer 8080) := by
    have h : Json.WritesDigits [8, 0, 8, 0] "8080".toList := ⟨by simp, rfl⟩
    exact .number (@Json.WritesNumber.mk _ false _ _ _ _ _ _ h (by simp) .absent .absent rfl)
  refine Json.printed_record _ fun m hm => ?_
  obtain rfl := List.mem_singleton.mp hm
  refine Json.printed_record _ fun m hm => ?_
  rw [current_fields] at hm
  simp only [List.mem_cons, List.not_mem_nil, or_false] at hm
  rcases hm with rfl | rfl | rfl | rfl | rfl | rfl
  case inr.inr.inr.inl => exact hport
  all_goals exact Json.printed_text _

theorem membersOf?_record {l : List (Text × Json)}
    (h : ∀ m ∈ l, m.2.sound = true ∧ m.2.depth + Constants.innerDepth ≤ Json.maxDepth) :
    Constants.membersOf? (.record l) = some l := by
  rw [Json.record, Constants.membersOf?]
  induction l with
  | nil => rfl
  | cons m l ih =>
    obtain ⟨k, j⟩ := m
    have hm : (j.sound && decide (j.depth + Constants.innerDepth ≤ Json.maxDepth)) = true := by
      simpa using h (k, j) List.mem_cons_self
    rw [List.map_cons, List.mapM_cons, ih fun m hm' => h m (List.mem_cons_of_mem (k, j) hm')]
    simp only [if_pos hm]
    rfl

theorem ofJson?_current : ofJson? (constants .current).toJson = some (constants .current) := by
  have hmembers : Constants.membersOf? (.record Constants.current.fields) =
      some Constants.current.fields := by
    refine membersOf?_record fun m hm => ?_
    rw [current_fields] at hm
    revert m
    decide
  have hsorted : (Constants.ofMembers Constants.current.fields).fields = Constants.current.fields := by
    rw [current_fields]
    rfl
  have hread : Constants.ofJson? Constants.current.toJson = some .current := by
    have hfields : Json.fields? [Constants.membersName] Constants.current.toJson =
        some ⟨true, [some (.record Constants.current.fields)]⟩ := rfl
    rw [Constants.ofJson?, hfields]
    change (Constants.membersOf? (.record Constants.current.fields)).map Constants.ofMembers = _
    rw [hmembers, Option.map_some]
    exact congrArg (some <| Constants.mk ·) hsorted
  have hfull : Request.full? Constants.current.toJson = some Constants.current.toJson := by
    have hsound : Constants.current.toJson.sound = true := printed_current.sound
    have hdepth : Constants.current.toJson.depth ≤ Json.maxDepth := by decide
    exact if_pos (by simp [hsound, hdepth])
  rw [ofJson?, toJson, hfull]
  simp only [Option.bind_eq_bind, Option.bind_some, hread]

/-- A printed response is read as what it says. -/
theorem read?_toText {r : Response} (hp : Printed r.toJson) (hr : ofJson? r.toJson = some r) :
    read? r.toText = some r := by
  rw [read?, toText, Json.read?_of_writes hp.padded]
  exact hr

theorem read?_update (u : Option Update) : read? (update u).toText = some (update u) := by
  cases u with
  | none => exact read?_toText Json.printed_null rfl
  | some u =>
    refine read?_toText (printed_update u) ?_
    obtain ⟨title, suffix⟩ := u
    cases suffix <;> rfl

theorem read?_current : read? (constants .current).toText = some (constants .current) :=
  read?_toText printed_current ofJson?_current

end Response
end PageTitle
