import PageTitle.Command.Basic
import PageTitle.Command.Grammar

/-!
# From arguments to commands

The rules of each command, and the command that arguments make.
-/

namespace PageTitle.Command
open Grammar (Arity OptionRule Rules Refusal Given)

/-- The names of options. -/
def optionsName : Text := "options".toList
def formatName : Text := "format".toList
def previousName : Text := "previous-suffix".toList
def titleName : Text := "title".toList
def prependName : Text := "prepend".toList
def whitelistName : Text := "whitelist".toList
def blacklistName : Text := "blacklist".toList
def patternName : Text := "regexp".toList
def clearName : Text := "clear-regexps".toList

/-- Every command takes the path of a file of options. -/
def pathRule : OptionRule := ⟨optionsName, .path, false⟩

/-- A name of a command for which there is help only. -/
def helpCommand : Text := Grammar.helpName

/-- The names of the commands and of those below `options`. -/
def names : List Text :=
  ["render", "tags", "example", "options", "serve", "watch"].map String.toList

def optionsNames : List Text := ["show", "set", "reset"].map String.toList

def topRules : Rules := { options := [pathRule], commands := helpCommand :: names }

def optionsRules : Rules := { options := [pathRule], commands := helpCommand :: optionsNames }

def plainRules : Rules := { options := [pathRule] }

/-- A title may start with a hyphen, and so may the suffix of the last one. -/
def renderRules : Rules where
  options := [pathRule, ⟨formatName, .value, false⟩, ⟨previousName, .value, true⟩]
  positions := [false, true]

def previewRules : Rules := { options := [pathRule], positions := [false] }

def setRules : Rules where
  options := [pathRule, ⟨formatName, .value, false⟩, ⟨whitelistName, .flag, false⟩,
    ⟨blacklistName, .flag, false⟩, ⟨patternName, .values, false⟩, ⟨clearName, .flag, false⟩]

def watchRules : Rules where
  options := [pathRule, ⟨titleName, .value, false⟩, ⟨prependName, .flag, false⟩]
  positions := [false]

/-- The choices that arguments make. Two that contradict each other cannot both be made. -/
def change (g : Given) : Except Refusal OptionsChange :=
  let patterns := g.values patternName
  if (g.has whitelistName && g.has blacklistName) || (g.has clearName && !patterns.isEmpty) then
    .error .usage
  else .ok {
    format := g.value? formatName
    whitelist :=
      if g.has whitelistName then some true
      else if g.has blacklistName then some false
      else none
    patterns :=
      if g.has clearName then some []
      else if patterns.isEmpty then none
      else some patterns }

/-- A command with its rules, by its name. -/
def leaf (name : String) : Option (Rules × (Given → Except Refusal Command)) :=
  match name with
  | "render" => some (renderRules, fun g =>
      match g.positional with
      | [url, title] => .ok (render url title (g.value? formatName) (g.value? previousName))
      | _ => .error .usage)
  | "tags" => some (plainRules, fun _ => .ok tags)
  | "example" => some (previewRules, fun g => .ok (preview g.positional.head?))
  | "show" => some (plainRules, fun _ => .ok showOptions)
  | "set" => some (setRules, fun g => (change g).map setOptions)
  | "reset" => some (plainRules, fun _ => .ok resetOptions)
  | "serve" => some (plainRules, fun _ => .ok serve)
  | "watch" => some (watchRules, fun g =>
      match g.positional with
      | [url] => .ok (watch url ((g.value? titleName).getD []) (g.has prependName))
      | _ => .error .usage)
  | _ => none

/-- What follows a request for help has to name a command. -/
def helpOn (names : List Text) (below : Text → List Text) : List Text → Refusal
  | [] => .help
  | [a] => if a = helpCommand || names.contains a then .help else .usage
  | [a, b] => if names.contains a && (below a).contains b then .help else .usage
  | _ => .usage

/-- The commands below a command, help among them if there are any. -/
def below (name : Text) : List Text :=
  if name = optionsName then helpCommand :: optionsNames else []

/-- The invocation of a command without commands below it; the path of the file of options may be
given before the command's name, and one given later counts. -/
def readLeaf (path : Option Text) (name : Text) (args : List Text) : Except Refusal Invocation :=
  match leaf (String.ofList name) with
  | none => .error .usage
  | some (rules, make) => do
    let g ← Grammar.read rules .any {} args
    .ok ⟨(g.value? optionsName).or path, ← make g⟩

/-- The invocation that arguments make. -/
def ofArguments (args : List Text) : Except Refusal Invocation := do
  let top ← Grammar.read topRules .any {} args
  let path := top.value? optionsName
  match top.next with
  | none => .error .usage
  | some (name, rest) =>
    if name = helpCommand then .error (helpOn names below rest)
    else if name = optionsName then
      let g ← Grammar.read optionsRules .any {} rest
      match g.next with
      | none => .error .usage
      | some (name, rest) =>
        if name = helpCommand then .error (helpOn optionsNames (fun _ => []) rest)
        else readLeaf ((g.value? optionsName).or path) name rest
    else readLeaf path name rest

end PageTitle.Command
