import PageTitle.Command.Arguments
import PageTitle.Command.Launch
import PageTitle.Command.Watch
import PageTitle.Text.Lines

/-!
# Running commands

`Command.run` is what a command does, and `Launch.run` the whole program: it opens the log, reads
the arguments and runs their command.
-/

namespace PageTitle

namespace OptionsError

/-- An error with what lies behind it. -/
def chain (e : OptionsError) : Text :=
  match e.cause? with
  | some cause => e.message ++ ": ".toList ++ cause
  | none => e.message

end OptionsError

namespace Command

/-- Lines of output. -/
def unlines (l : List Text) : Text := l.flatMap fun t => t ++ ['\n']

/-- Why there is no page at an address. -/
def urlMessage (url : Text) (e : UrlError) : Text :=
  "invalid page URL: ".toList ++ url ++ ": ".toList ++ e.message

/-- The format that a title is rendered by: one that is given counts as if it had been saved. -/
def chosenFormat (o : Options) (format : Option Text) : Text :=
  (format.map Text.normalize).getD o.format

/-- The table of the tags, with their values on the sample page. -/
def tagLines : List Text :=
  let line (name value description : Text) : Text :=
    Text.padRight 16 name ++ ' ' :: Text.padRight 28 value ++ ' ' :: description
  line "TAG".toList "EXAMPLE".toList "DESCRIPTION".toList :: Tag.all.map fun t =>
    line t.placeholder (Format.render t.placeholder Environment.sample) t.description

def optionsLines (o : Options) : List Text :=
  ["format: ".toList ++ o.format,
    "url filter: ".toList ++ (if o.whitelist then "whitelist" else "blacklist").toList] ++
    if o.patterns.isEmpty then ["url filter regexps: (none)".toList]
    else "url filter regexps:".toList :: o.patterns.map fun p => ' ' :: ' ' :: p

/-- What tells that options were saved. -/
def savedLine : Text := "Options saved.".toList

/-- The line that answers a message; one that has no reply gets no update. -/
def replyLine (options : Except OptionsError Options) (message : Text) : Text :=
  (Service.reply options message).toOption.getD Json.null.toText

/-- The messages of an input, which are the lines that are not blank. -/
def messages (input : Text) : List Text := (Text.lines input).filter (!·.blank)

/-- Prints the title of a page, unless the options keep it as it is. -/
def runRender (o : Options) (files : FileTree) (url title : Text)
    (format previous : Option Text) : Report :=
  match Url.parse url with
  | .error e => { error := some (urlMessage url e), files }
  | .ok page =>
    let format := chosenFormat o format
    let env : Environment := ⟨page.location, title⟩
    if o.accepts url then
      { output := unlines [(Update.make format env previous).title], files
        log := Log.filterNotes o ++ Log.updateNotes format env }
    else
      { files, log := Log.filterNotes o ++ [⟨.info, Log.renderPart,
          "url=".toList ++ url ++ " filtered out, title left unchanged".toList⟩] }

/-- Observes a page whose title each line of the input writes, and prints its title each time. -/
def runWatch (store : Store) (files : FileTree) (input url title : Text) (prepend : Bool) : Report :=
  match Url.parse url with
  | .error e => { error := some (urlMessage url e), files }
  | .ok page =>
    let g := Watch.setting store
    let first := Watch.first g { page := Page.load page title } files
    let states := Watch.states g prepend first (Text.lines input)
    { output := unlines (states.map Watch.State.title), files
      log := (states.getLast?.map Watch.State.log).getD [] }

/-- Runs a command over the options in a store. -/
def run (c : Command) (store : Store) (files : FileTree) (input : Text) : Report :=
  let fail (e : OptionsError) : Report := { error := some e.chain, files }
  match c with
  | render url title format previous =>
    match store.load files with
    | .error e => fail e
    | .ok o => runRender o files url title format previous
  | tags => { output := unlines tagLines, files }
  | preview format =>
    match format.elim ((store.load files).map (·.format)) .ok with
    | .error e => fail e
    | .ok format => { output := unlines [Format.render format Environment.sample], files }
  | showOptions =>
    match store.load files with
    | .error e => fail e
    | .ok o => { output := unlines (optionsLines o), files }
  | setOptions change =>
    match store.tryChange files change with
    | (.error e, files) => { error := some e.chain, files }
    | (.ok _, files) =>
      { output := unlines [savedLine], files
        log := [⟨.info, Log.storePart, "saved options to ".toList ++ store.path.text⟩] }
  | resetOptions =>
    match store.clear files with
    | .error e => fail e
    | .ok rest =>
      { output := unlines [savedLine], files := rest
        log := if (files.read store.path).toOption.isSome then
            [⟨.info, Log.storePart, "reset options at ".toList ++ store.path.text⟩]
          else [] }
  | serve =>
    let options := store.load files
    { output := unlines ((messages input).map (replyLine options)), files
      log := (messages input).flatMap (Log.replyNotes options) }
  | watch url title prepend => runWatch store files input url title prepend

end Command

namespace Launch

/-- The store that an invocation works on. -/
def store (p : Launch) (i : Invocation) : Store := ⟨(i.optionsPath.map p.path).getD p.optionsPath⟩

def startNote (p : Launch) : Log.Record :=
  ⟨.info, Log.startPart, "urlintitle logging initialized at ".toList ++ p.logPath.text⟩

def storeNote (s : Store) : Log.Record :=
  ⟨.debug, Log.programPart, "using options at ".toList ++ s.path.text⟩

/-- The program: its exit code and what it leaves behind. Without a log nothing is logged and all
else is the same. -/
def run (p : Launch) : Nat × Report :=
  let (opened, files) := p.openLog
  let keep (l : List Log.Record) : List Log.Record :=
    if opened.toOption.isSome then l.filter p.logFilter.enabled else []
  match Command.ofArguments p.arguments with
  | .error .help => (0, { files, log := keep [p.startNote] })
  | .error .usage => (2, { files, log := keep [p.startNote] })
  | .ok i =>
    let s := p.store i
    let r := i.command.run s files p.input
    (if r.error.isSome then 1 else 0, { r with log := keep (p.startNote :: storeNote s :: r.log) })

end Launch
end PageTitle
