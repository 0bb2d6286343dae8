import PageTitle.Json.Basic

/-!
# Records in JSON

A record is written as an object with its fields as members in any order, or as the array of its
fields. Members of other names count for nothing; no field stands twice.
-/

namespace PageTitle.Json

/-- The fields of a record as they stand in a value, in the order of the record, and whether they
stand under their names. -/
structure Fields where
  named : Bool
  values : List (Option Json)

/-- The values of all members of a name. -/
def membersNamed (name : Text) (l : List (Option Text × Json)) : List Json :=
  l.filterMap fun (k, j) => if k = some name then some j else none

/-- The value of the only member of a name, absent where there is none; nothing if there are
several. -/
def member? (l : List (Option Text × Json)) (name : Text) : Option (Option Json) :=
  match membersNamed name l with
  | [] => some none
  | [j] => some (some j)
  | _ => none

/-- The fields of the given names; those that an array lacks at its end are absent. -/
def fields? (names : List Text) : Json → Option Fields
  | object l =>
    if l.all (·.1.isSome) then (names.mapM (member? l)).map (⟨true, ·⟩) else none
  | array l =>
    if l.length ≤ names.length then
      some ⟨false, l.map some ++ List.replicate (names.length - l.length) none⟩
    else none
  | _ => none

def asText? : Json → Option Text
  | string t => t
  | _ => none

def asBool? : Json → Option Bool
  | bool b => some b
  | _ => none

def asTexts? : Json → Option (List Text)
  | array l => l.mapM asText?
  | _ => none

def asOptionalText? : Json → Option (Option Text)
  | null => some none
  | j => (asText? j).map some

namespace Fields

/-- A field that must be there. -/
def required? {α : Type} (read : Json → Option α) (j : Option Json) : Option α := j.bind read

/-- A field that may be absent. -/
def orElse? {α : Type} (default : α) (read : Json → Option α) : Option Json → Option α
  | some j => read j
  | none => some default

/-- A text that may be null, and absent where fields have names. -/
def optional? (f : Fields) : Option Json → Option (Option Text)
  | some j => asOptionalText? j
  | none => if f.named then some none else none

end Fields
end PageTitle.Json
