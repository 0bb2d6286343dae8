import PageTitle.Json.Token

/-!
# Reading JSON

The tokens of a text are taken in one by one, with the arrays and objects that are open on a
stack.
-/

namespace PageTitle.Json

/-- An array or an object that is open, its parts so far with the latest first. An object may have
a key whose value is still to come. -/
inductive Frame where
  | items (done : List Json)
  | members (done : List (Option Text × Json)) (key : Option (Option Text))
  deriving Repr

/-- What may come next. -/
inductive Expected where
  | value | valueOrEnd | key | keyOrEnd | colon | separator
  deriving DecidableEq, Repr

/-- What was read: a part of a value, or all of one. -/
inductive Reading where
  | part (stack : List Frame) (expected : Expected)
  | whole (j : Json)
  deriving Repr

namespace Reading

/-- Takes in a value that is complete. -/
def complete (j : Json) : List Frame → Reading
  | [] => whole j
  | .items l :: stack => part (.items (j :: l) :: stack) .separator
  | .members l (some k) :: stack => part (.members ((k, j) :: l) none :: stack) .separator
  | .members l none :: stack => part (.members l none :: stack) .separator

/-- Takes in the value that a token starts. -/
def startValue (stack : List Frame) : Token → Option Reading
  | .leaf j => some (complete j stack)
  | .openArray => some (part (.items [] :: stack) .valueOrEnd)
  | .openObject => some (part (.members [] none :: stack) .keyOrEnd)
  | _ => none

/-- Takes in the key of a member. -/
def startMember : List Frame → Token → Option Reading
  | .members l none :: stack, .leaf (.string k) => some (part (.members l (some k) :: stack) .colon)
  | _, _ => none

/-- Closes the innermost array or object. -/
def close : List Frame → Token → Option Reading
  | .items l :: stack, .closeArray => some (complete (.array l.reverse) stack)
  | .members l none :: stack, .closeObject => some (complete (.object l.reverse) stack)
  | _, _ => none

/-- Takes in a token. -/
def next (r : Reading) (t : Token) : Option Reading :=
  match r with
  | whole _ => none
  | part stack expected =>
    match expected, stack, t with
    | .value, stack, t => startValue stack t
    | .valueOrEnd, stack, .closeArray => close stack .closeArray
    | .valueOrEnd, stack, t => startValue stack t
    | .key, stack, t => startMember stack t
    | .keyOrEnd, stack, .closeObject => close stack .closeObject
    | .keyOrEnd, stack, t => startMember stack t
    | .colon, stack, .colon => some (part stack .value)
    | .separator, .items l :: stack, .comma => some (part (.items l :: stack) .value)
    | .separator, .members l k :: stack, .comma => some (part (.members l k :: stack) .key)
    | .separator, stack, t => close stack t
    | _, _, _ => none

end Reading

/-- Reads a text that holds one value. -/
def read? (t : Text) : Option Json := do
  match ← (← tokens? t).foldlM Reading.next (.part [] .value) with
  | .whole j => some j
  | .part _ _ => none

end PageTitle.Json
