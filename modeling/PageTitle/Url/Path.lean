import PageTitle.Url.Percent
import PageTitle.Text.Split

/-!
# Paths

The path of a web address that has levels is the list of its segments. A segment of two dots takes
back the one before it, except a drive letter, and a segment of one dot counts for nothing.
-/

namespace PageTitle.Path

/-- The ways to write a dot in a segment. -/
def dotForms : List Text := [".".toList, "%2e".toList, "%2E".toList]

def isDot (segment : Text) : Bool := dotForms.contains segment

def isDoubleDot (segment : Text) : Bool :=
  dotForms.any fun a => dotForms.any fun b => a ++ b = segment

/-- Whether a segment names a drive: a letter and a colon or a bar. -/
def isDrive : Text → Bool
  | [a, b] => Text.isAsciiLetter a && (b = ':' || b = '|')
  | _ => false

/-- The segments without the last one, which stays if it is a drive. -/
def up (segments : List Text) : List Text :=
  match segments.getLast? with
  | some s => if isDrive s then segments else segments.dropLast
  | none => []

/-- Walks over raw segments; `done` are those that stand so far. The last raw segment ends the
path. -/
def resolve (done : List Text) : (raw : List Text) → List Text
  | [] => done
  | [s] =>
    if isDoubleDot s then up done ++ [[]]
    else if isDot s then done ++ [[]]
    else done ++ [s]
  | s :: rest =>
    if isDoubleDot s then resolve (up done) rest
    else if isDot s then resolve done rest
    else resolve (done ++ [s]) rest

/-- A segment with a drive's bar written as a colon. -/
def normalDrive (segment : Text) : Text :=
  if isDrive segment then segment.take 1 ++ [':'] else segment

/-- The segments of a path whose first slash is left out. -/
def ofText (isSlash : Char → Bool) (t : Text) : List Text :=
  resolve [] ((Text.splitBy isSlash t).map (Percent.encode Percent.path))

/-- The segments of a path on a file system, where drives have one form and no segment before the
first name is empty. -/
def ofFileText (t : Text) : List Text :=
  let raw := Text.splitBy (fun c => c = '/' || c = '\\') t
  let segments := resolve [] (raw.map fun s => normalDrive (Percent.encode Percent.path s))
  match segments.dropWhile List.isEmpty with
  | [] => [[]]
  | l => l

/-- The segments, each after a slash. -/
def toText (segments : List Text) : Text := segments.flatMap ('/' :: ·)

end PageTitle.Path
