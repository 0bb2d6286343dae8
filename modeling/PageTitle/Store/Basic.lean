import PageTitle.FileTree
import PageTitle.Store.FileText
import PageTitle.Text.Utf8

/-!
# The options store

Keeps options in one file. Options are normalized when they are saved and when they are loaded, and
none are saved of which a pattern is not valid. Where no file is, the standard options are loaded.
-/

namespace PageTitle

/-- Why options cannot be loaded or saved. What a TOML reader has to say about a malformed file is left out;
options can always be written, so there is no error for that. -/
inductive OptionsError where
  | invalidPattern (pattern : Text) (cause : PatternError)
  | file (path : Text) (cause : FileError)
  | notText (path : Text)
  | malformed (path : Text)
  deriving DecidableEq, Repr

namespace OptionsError

/-- What lies behind an error, if there is more to say. -/
def cause? : OptionsError → Option Text
  | invalidPattern _ cause => some cause.message
  | file _ cause => some cause.message
  | notText _ => some "stream did not contain valid UTF-8".toList
  | malformed _ => none

/-- The explanation; that of a malformed file without the colon and the reader's words that would follow. -/
def message (e : OptionsError) : Text :=
  match e with
  | invalidPattern pattern _ => "Invalid URL filter regular expression: ".toList ++ pattern
  | malformed path => "options file ".toList ++ path ++ " is not valid TOML".toList
  | file path _ | notText path =>
    "options file ".toList ++ path ++ ": ".toList ++ e.cause?.getD []

end OptionsError

/-- Some of the choices that options make. -/
structure OptionsChange where
  format : Option Text := none
  whitelist : Option Bool := none
  patterns : Option (List Text) := none
  deriving DecidableEq, Repr

namespace Options

/-- The options with some choices replaced. -/
def change (o : Options) (c : OptionsChange) : Options :=
  ⟨c.format.getD o.format, c.whitelist.getD o.whitelist, c.patterns.getD o.patterns⟩

end Options

/-- Options in the file at a path. -/
structure Store where
  path : FilePath
  deriving DecidableEq, Repr

namespace Store

/-- The options in the file, or the standard ones if there is none. -/
def load (s : Store) (t : FileTree) : Except OptionsError Options :=
  match t.read s.path with
  | .error .missing => .ok {}
  | .error e => .error (.file s.path.text e)
  | .ok b =>
    match Utf8.decode? b with
    | none => .error (.notText s.path.text)
    | some text =>
      match Options.ofFileText? text with
      | none => .error (.malformed s.path.text)
      | some o => .ok o.normalize

/-- Puts options into the file: the options as they were saved or why they were not, and the tree that is
left either way. -/
def trySave (s : Store) (t : FileTree) (o : Options) : Except OptionsError Options × FileTree :=
  match o.normalize.invalid? with
  | some (p, e) => (.error (.invalidPattern p e), t)
  | none =>
    match t.install s.path (Utf8.encode o.normalize.fileText) with
    | (.error e, t) => (.error (.file s.path.text e), t)
    | (.ok (), t) => (.ok o.normalize, t)

/-- Saves the options in the file with some choices replaced. -/
def tryChange (s : Store) (t : FileTree) (c : OptionsChange) :
    Except OptionsError Options × FileTree :=
  match s.load t with
  | .error e => (.error e, t)
  | .ok o => s.trySave t (o.change c)

/-- Puts options into the file and returns them as they were saved, with the tree that has the
file. -/
def save (s : Store) (t : FileTree) (o : Options) : Except OptionsError (Options × FileTree) :=
  match s.trySave t o with
  | (.error e, _) => .error e
  | (.ok o, t) => .ok (o, t)

/-- The same with the options in the file of which some choices are replaced. -/
def change (s : Store) (t : FileTree) (c : OptionsChange) :
    Except OptionsError (Options × FileTree) := do
  s.save t ((← s.load t).change c)

/-- Removes the file, if there is one. -/
def clear (s : Store) (t : FileTree) : Except OptionsError FileTree :=
  match t.remove s.path with
  | .ok t' => .ok t'
  | .error .missing => .ok t
  | .error e => .error (.file s.path.text e)

end Store
end PageTitle
