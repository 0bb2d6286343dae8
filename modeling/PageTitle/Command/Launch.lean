import PageTitle.FileTree
import PageTitle.Log.Filter

/-!
# Launches

What a run of the program gets and what it leaves behind.
-/

namespace PageTitle

/-- What a run of the program gets: its arguments, the variables around it, its input, the
place of its working directory, and the files. -/
structure Launch where
  arguments : List Text
  environment : List (Text × Text) := []
  input : Text := []
  workingDirectory : List Text := []
  files : FileTree

/-- What a run leaves behind: its output, why it failed if it did, the files, and what was logged. -/
structure Report where
  output : Text := []
  error : Option Text := none
  files : FileTree
  log : List Log.Record := []

namespace Launch

def path (p : Launch) (t : Text) : FilePath := FilePath.ofText p.workingDirectory t

def getVariable (p : Launch) (name : String) : Option Text := p.environment.lookup name.toList

/-- The directory of the program below one that a variable names by an absolute path, or else below
one of the user's own. -/
def userDirectory (p : Launch) (variableName fallback : String) : FilePath :=
  let base := match p.getVariable variableName with
    | some ('/' :: r) => p.path ('/' :: r)
    | _ => (p.path ((p.getVariable "HOME").getD [])).join fallback.toList
  base.join "urlintitle".toList

/-- The file of options that is used if no other is named. -/
def optionsPath (p : Launch) : FilePath :=
  (p.userDirectory "XDG_CONFIG_HOME" ".config").join "options.toml".toList

def logDirectory (p : Launch) : FilePath := p.userDirectory "XDG_STATE_HOME" ".local/state"

def logPath (p : Launch) : FilePath := p.logDirectory.join "urlintitle.log".toList

/-- Makes the directory of the log, and tells whether the log can be written there. -/
def openLog (p : Launch) : Except FileError Unit × FileTree :=
  match p.files.makeDirectory p.logDirectory with
  | (.error e, files) => (.error e, files)
  | (.ok (), files) =>
    match files.read p.logPath with
    | .ok _ | .error .missing => (.ok (), files)
    | .error e => (.error e, files)

/-- What of the log the user wants to see. -/
def logFilter (p : Launch) : Log.Filter :=
  ((p.getVariable "RUST_LOG").bind Log.Filter.ofText?).getD Log.Filter.standard

end Launch
end PageTitle
