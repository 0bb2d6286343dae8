import PageTitle.Text.Basic

/-!
# Locations

A page's location in six fields, as a browser shows it: the protocol ends in a colon, the query
and the fragment keep their leading `?` and `#`, and a part that is absent is empty. Only the
fields that a renderer advertises are copied to it.
-/

namespace PageTitle

/-- The fields of a location, in the order in which they are advertised. -/
inductive LocationField where
  | protocol | hostname | port | pathname | search | hash
  deriving DecidableEq, Repr

namespace LocationField

/-- All fields, in order. -/
def all : List LocationField := [protocol, hostname, port, pathname, search, hash]

theorem mem_all (f : LocationField) : f ∈ all := by
  cases f <;> decide

def name : LocationField → Text
  | protocol => "protocol".toList
  | hostname => "hostname".toList
  | port => "port".toList
  | pathname => "pathname".toList
  | search => "search".toList
  | hash => "hash".toList

/-- The field of a given name. -/
def ofName? (t : Text) : Option LocationField := all.find? (·.name = t)

theorem ofName?_name (f : LocationField) : ofName? f.name = some f := by
  cases f <;> decide

theorem name_of_ofName? {t : Text} {f : LocationField} (h : ofName? t = some f) : f.name = t := by
  simpa using List.find?_some h

end LocationField

/-- Where a page is. -/
structure Location where
  protocol : Text := []
  hostname : Text := []
  port : Text := []
  pathname : Text := []
  search : Text := []
  hash : Text := []
  deriving DecidableEq, Repr

namespace Location

def get (l : Location) : LocationField → Text
  | .protocol => l.protocol
  | .hostname => l.hostname
  | .port => l.port
  | .pathname => l.pathname
  | .search => l.search
  | .hash => l.hash

def set (l : Location) : LocationField → Text → Location
  | .protocol, v => { l with protocol := v }
  | .hostname, v => { l with hostname := v }
  | .port, v => { l with port := v }
  | .pathname, v => { l with pathname := v }
  | .search, v => { l with search := v }
  | .hash, v => { l with hash := v }

theorem get_set (l : Location) (f g : LocationField) (v : Text) :
    (l.set f v).get g = if g = f then v else l.get g := by
  cases f <;> cases g <;> rfl

/-- The value of the field of a given name. -/
def field? (l : Location) (name : Text) : Option Text :=
  (LocationField.ofName? name).map l.get

/-- The location with the named fields of `l` and all others empty. Names of no field count for
nothing. -/
def copyFields (l : Location) (names : List Text) : Location :=
  names.foldl (fun copy n =>
    match LocationField.ofName? n with
    | some f => copy.set f (l.get f)
    | none => copy) {}

theorem get_copyFields (l : Location) (names : List Text) (f : LocationField) :
    (l.copyFields names).get f = if f.name ∈ names then l.get f else [] := by
  suffices h : ∀ copy : Location, (names.foldl (fun copy n =>
      match LocationField.ofName? n with
      | some f => copy.set f (l.get f)
      | none => copy) copy).get f = if f.name ∈ names then l.get f else copy.get f by
    rw [copyFields, h]
    cases f <;> rfl
  induction names with
  | nil => intro copy; rfl
  | cons n names ih =>
    intro copy
    rw [List.foldl_cons, ih]
    cases hn : LocationField.ofName? n with
    | none =>
      have hne : f.name ≠ n := fun h => by
        rw [← h, LocationField.ofName?_name] at hn
        cases hn
      simp [hne]
    | some f' =>
      have hf : f.name = n ↔ f = f' := by
        rw [← LocationField.name_of_ofName? hn]
        cases f <;> cases f' <;> decide
      simp only [get_set, List.mem_cons, hf]
      split <;> split <;> simp_all

theorem ext_get {a b : Location} (h : ∀ f, a.get f = b.get f) : a = b := by
  cases a
  cases b
  simp only [mk.injEq]
  exact ⟨h .protocol, h .hostname, h .port, h .pathname, h .search, h .hash⟩

/-- A renderer that names all fields gets all. -/
theorem copyFields_of_all (l : Location) {names : List Text}
    (h : ∀ f : LocationField, f.name ∈ names) : l.copyFields names = l :=
  ext_get fun f => by rw [get_copyFields, if_pos (h f)]

/-- The location that documents the tags. -/
def sample : Location where
  protocol := "http".toList
  hostname := "www.xn--exmpl-hra2b.com".toList
  port := "8080".toList
  pathname := "/sub/path".toList
  search := "?arg=value".toList
  hash := "#hash".toList

end Location

/-- What a title is rendered from: a page's location and its raw title. -/
structure Environment where
  location : Location
  title : Text
  deriving DecidableEq, Repr

namespace Environment

/-- The environment that documents the tags. -/
def sample : Environment := ⟨Location.sample, "My Example Page".toList⟩

end Environment
end PageTitle
