import PageTitle.Json.Number

/-!
# JSON values

A value as its text gives it. A string may hold half of a character and a number may be too large;
such leaves are kept as absent, because a reader need not look at all parts of a value. `sound`
tells whether it could.
-/

namespace PageTitle

inductive Json where
  | null
  | bool (b : Bool)
  | number (n : Option Number)
  | string (t : Option Text)
  | array (items : List Json)
  | object (members : List (Option Text × Json))
  deriving Repr

namespace Json

/-- A string. -/
def text (t : Text) : Json := string (some t)

def integer (n : Int) : Json := number (some (.integer n))

/-- A string, or null. -/
def optional : Option Text → Json
  | some t => text t
  | none => null

/-- An object with the given members. -/
def record (members : List (Text × Json)) : Json :=
  object (members.map fun (k, v) => (some k, v))

mutual

/-- The number of arrays and objects around the innermost value. -/
def depth : Json → Nat
  | array l => 1 + depthOfItems l
  | object l => 1 + depthOfMembers l
  | _ => 0

def depthOfItems : List Json → Nat
  | [] => 0
  | j :: r => max j.depth (depthOfItems r)

def depthOfMembers : List (Option Text × Json) → Nat
  | [] => 0
  | (_, j) :: r => max j.depth (depthOfMembers r)

end

mutual

/-- Whether all numbers, strings and keys can be told. -/
def sound : Json → Bool
  | number n => n.isSome
  | string t => t.isSome
  | array l => soundItems l
  | object l => soundMembers l
  | _ => true

def soundItems : List Json → Bool
  | [] => true
  | j :: r => j.sound && soundItems r

def soundMembers : List (Option Text × Json) → Bool
  | [] => true
  | (k, j) :: r => k.isSome && j.sound && soundMembers r

end

/-- How deep a value may be that is read in full. -/
def maxDepth : Nat := 127

end Json
end PageTitle
