import PageTitle.Json.Printer
import PageTitle.Json.Reader
import PageTitle.Json.Record
import PageTitle.Options
import PageTitle.Update

/-!
# Messages

What a page and a renderer say to each other, and how it is written in JSON. Requests and
responses are read in full, whatever their members, because only then it is known which they are.
-/

namespace PageTitle

namespace Location

/-- Reads a location, of which any field may be absent. -/
def ofJson? (j : Json) : Option Location := do
  let f ← j.fields? (LocationField.all.map LocationField.name)
  match ← f.values.mapM (Json.Fields.orElse? [] Json.asText?) with
  | [protocol, hostname, port, pathname, search, hash] =>
    some { protocol, hostname, port, pathname, search, hash }
  | _ => none

def toJson (l : Location) : Json :=
  .record (LocationField.all.map fun f => (f.name, .text (l.get f)))

end Location

namespace Environment

def ofJson? (j : Json) : Option Environment := do
  let f ← j.fields? ["location".toList, "title".toList]
  match f.values with
  | [location, title] =>
    some ⟨← Json.Fields.required? Location.ofJson? location,
      ← Json.Fields.required? Json.asText? title⟩
  | _ => none

end Environment

namespace Options

/-- The names of the fields, in order. -/
def fieldNames : List Text := [formatKey, whitelistKey, patternsKey]

/-- Reads options, of which any field may be absent. -/
def ofJson? (j : Json) : Option Options := do
  let f ← j.fields? fieldNames
  let standard : Options := {}
  match f.values with
  | [format, whitelist, patterns] =>
    some {
      format := ← Json.Fields.orElse? standard.format Json.asText? format
      whitelist := ← Json.Fields.orElse? standard.whitelist Json.asBool? whitelist
      patterns := ← Json.Fields.orElse? standard.patterns Json.asTexts? patterns }
  | _ => none

end Options

namespace Update

def ofJson? (j : Json) : Option Update := do
  let f ← j.fields? ["formatted_title".toList, "formatted_title_suffix".toList]
  match f.values with
  | [title, suffix] =>
    some ⟨← Json.Fields.required? Json.asText? title, ← f.optional? suffix⟩
  | _ => none

def toJson (u : Update) : Json :=
  .record [("formatted_title".toList, .text u.title),
    ("formatted_title_suffix".toList, .optional u.suffix)]

end Update

/-- What a renderer says of itself: the fields of the location that it needs, each with an example,
in the order of their names. -/
structure Constants where
  fields : List (Text × Json)
  deriving Repr

namespace Constants

/-- Puts a member where its name stands in order, in place of one of the same name. -/
def insert (name : Text) (j : Json) : List (Text × Json) → List (Text × Json)
  | [] => [(name, j)]
  | (k, v) :: r =>
    if name = k then (name, j) :: r
    else if name < k then (name, j) :: (k, v) :: r
    else (k, v) :: insert name j r

/-- The members in order, the last of each name. -/
def ofMembers (l : List (Text × Json)) : Constants := ⟨l.foldl (fun c (k, v) => insert k v c) []⟩

/-- The value of a field of the sample location: a port is a number. -/
def example? (f : LocationField) : Json :=
  let v := Location.sample.get f
  match f, Text.number? 10 v with
  | .port, some n => .integer n
  | _, _ => .text v

/-- What this renderer says of itself. -/
def current : Constants := ofMembers (LocationField.all.map fun f => (f.name, example? f))

def fieldNames (c : Constants) : List Text := c.fields.map (·.1)

def membersName : Text := "LOCATION_FIELDS".toList

/-- The depth at which the values of the members stand. -/
def innerDepth : Nat := 2

/-- Reads the members of the only field. -/
def membersOf? : Json → Option (List (Text × Json))
  | .object l => l.mapM fun (k, j) =>
      if j.sound && j.depth + innerDepth ≤ Json.maxDepth then k.map (·, j) else none
  | _ => none

def ofJson? (j : Json) : Option Constants := do
  let f ← j.fields? [membersName]
  match f.values with
  | [members] => (Json.Fields.required? membersOf? members).map ofMembers
  | _ => none

def toJson (c : Constants) : Json := .record [(membersName, .record c.fields)]

end Constants

/-- A title to render: the location and the raw title of a page, its address for the filter, and the
suffix of the last update. -/
structure FormatRequest where
  location : Location
  url : Text
  title : Text
  previous : Option Text
  deriving DecidableEq, Repr

namespace FormatRequest

def fieldNames : List Text :=
  ["location".toList, "filtering_url".toList, "title".toList,
    "previous_formatted_title_suffix".toList]

def ofFields? (f : Json.Fields) : Option FormatRequest :=
  match f.values with
  | [location, url, title, previous] => do
    some ⟨← Json.Fields.required? Location.ofJson? location,
      ← Json.Fields.required? Json.asText? url, ← Json.Fields.required? Json.asText? title,
      ← f.optional? previous⟩
  | _ => none

end FormatRequest

/-- What a page asks for. -/
inductive Request where
  | constants
  | format (r : FormatRequest)
  deriving DecidableEq, Repr

namespace Request

/-- The member that tells what a request asks for. -/
def tag : Text := "name".toList

def constantsName : Text := "get_constants".toList

def formatName : Text := "format_title_update".toList

/-- A value that is read in full. -/
def full? (j : Json) : Option Json := if j.sound && j.depth ≤ Json.maxDepth then some j else none

/-- The name of a request and the rest of it: the other members, or the items after the first. -/
def untag? : Json → Option (Text × Json)
  | .object l => do
    let name ← Json.asText? (← (← Json.member? l tag))
    some (name, .object (l.filter (·.1 ≠ some tag)))
  | .array (j :: r) => (Json.asText? j).map (·, .array r)
  | _ => none

def ofJson? (j : Json) : Option Request := do
  let (name, rest) ← untag? (← full? j)
  if name = constantsName then
    match rest with
    | .array (_ :: _) => none
    | _ => some constants
  else if name = formatName then
    (FormatRequest.ofFields? (← rest.fields? FormatRequest.fieldNames)).map format
  else none

def toJson : Request → Json
  | constants => .record [(tag, .text constantsName)]
  | format r =>
    .record ([(tag, .text formatName)] ++ FormatRequest.fieldNames.zip
      [r.location.toJson, .text r.url, .text r.title, .optional r.previous])

/-- Reads a request. -/
def read? (t : Text) : Option Request := (Json.read? t).bind ofJson?

end Request

/-- What a renderer answers: what it says of itself, or the update of a title, absent where the
filter keeps the title as it is. -/
inductive Response where
  | constants (c : Constants)
  | update (u : Option Update)
  deriving Repr

namespace Response

/-- Reads a response. What can be both is what the renderer says of itself. -/
def ofJson? (j : Json) : Option Response := do
  let j ← Request.full? j
  match Constants.ofJson? j with
  | some c => some (constants c)
  | none =>
    match j with
    | .null => some (update none)
    | j => (Update.ofJson? j).map fun u => update (some u)

def toJson : Response → Json
  | constants c => c.toJson
  | update none => .null
  | update (some u) => u.toJson

/-- Reads a response. -/
def read? (t : Text) : Option Response := (Json.read? t).bind ofJson?

/-- The text of a response. -/
def toText (r : Response) : Text := r.toJson.toText

end Response
end PageTitle
