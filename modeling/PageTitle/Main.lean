import PageTitle.Command.Run

/-!
# The program

The outer layer: it gathers what a run gets, and carries out on the real files what the run leaves
behind. Commands that answer line by line are run one line at a time.
-/

namespace PageTitle.Program

/-- The name of a place in the file system. -/
def placeName (place : List Text) : String := String.ofList (place.flatMap ('/' :: ·))

/-- A tree with what the file system holds along the parts of a path. -/
def gather (t : FileTree) : (place parts : List Text) → IO FileTree
  | _, [] => pure t
  | place, p :: ps =>
    if p = FilePath.parentPart then gather t place.dropLast ps
    else do
      let path := (← IO.currentDir) / placeName (place ++ [p])
      if ← path.isDir then gather (t.put (place ++ [p]) .directory) (place ++ [p]) ps
      else if ← path.pathExists then
        return t.put (place ++ [p]) (.file (← IO.FS.readBinFile path))
      else return t

/-- Puts a file in place as a whole. -/
def replaceFile (name : String) (b : ByteArray) : IO Unit := do
  let draft := name ++ ".new"
  IO.FS.writeBinFile draft b
  IO.FS.rename draft name

/-- Makes the file system differ from one tree to another. -/
def carryOut (old new : FileTree) : IO Unit := do
  for (place, e) in new.entries.reverse do
    if old.entry? place ≠ some e then
      match e with
      | .directory => IO.FS.createDirAll (placeName place)
      | .file b => replaceFile (placeName place) b
  for (place, _) in old.entries do
    if ( new.entry? place).isNone then IO.FS.removeFile (placeName place)

/-- Appends records to the log, or shows them if there is none. -/
def writeLog (p : Launch) (l : List Log.Record) : IO Unit := do
  let lines := (l.filter p.logFilter.enabled).map fun r => String.ofList r.line
  match p.openLog.1 with
  | .ok () =>
    let log ← IO.FS.Handle.mk (placeName p.logPath.parts) .append
    lines.forM fun line => log.putStrLn line
  | .error _ => lines.forM fun line => IO.eprintln line

def printLine (t : Text) : IO Unit := do
  let out ← IO.getStdout
  out.putStrLn (String.ofList t)
  out.flush

/-- Runs an action on each line of the input. -/
partial def eachLine {σ : Type} (s : σ) (f : σ → Text → IO σ) : IO Unit := do
  let line ← (← IO.getStdin).getLine
  if line.isEmpty then return
  let mut s := s
  for t in Text.lines line.toList do
    s ← f s t
  eachLine s f

/-- Answers messages, each under the options that are stored at the moment. -/
def serve (p : Launch) (s : Store) : IO Unit :=
  eachLine () fun _ line => do
    unless line.blank do
      let options := s.load (← gather {} [] s.path.parts)
      writeLog p (Log.replyNotes options line)
      printLine (Command.replyLine options line)

/-- Observes a page, of which each line writes the title. -/
def watch (p : Launch) (s : Store) (page : Page) (prepend : Bool) : IO Unit := do
  let g := Watch.setting s
  let report (s : Watch.State) : IO Watch.State := do
    writeLog p s.log
    printLine s.title
    return { s with log := [] }
  let first ← report (Watch.first g { page } p.files)
  eachLine first fun state line => do
    let files ← gather {} [] s.path.parts
    report (Watch.next g prepend { state with session := { state.session with files } } line)

/-- Runs a command that does not answer line by line. -/
def runOnce (p : Launch) : IO UInt32 := do
  let (code, r) := p.run
  carryOut p.files r.files
  writeLog p r.log
  (← IO.getStdout).putStr (String.ofList r.output)
  match r.error with
  | some e => IO.eprintln (String.ofList ("urlintitle error: ".toList ++ e))
  | none => pure ()
  return code.toUInt32

/-- What the program gets, with the files that it may look at. -/
def launch (arguments : List String) : IO Launch := do
  let names := ["HOME", "XDG_CONFIG_HOME", "XDG_STATE_HOME", "RUST_LOG"]
  let environment ← names.filterMapM fun name => do
    return (← IO.getEnv name).map fun v => (name.toList, v.toList)
  let p : Launch :=
    { arguments := arguments.map String.toList, environment
      workingDirectory := FilePath.split (toString (← IO.currentDir)).toList, files := {} }
  let files ← gather {} [] p.logPath.parts
  match Command.ofArguments p.arguments with
  | .ok i => return { p with files := ← gather files [] (p.store i).path.parts }
  | .error _ => return { p with files }

end PageTitle.Program

open PageTitle in
def main (arguments : List String) : IO UInt32 := do
  let p ← Program.launch arguments
  match Command.ofArguments p.arguments with
  | .ok ⟨path, .serve⟩ =>
    let s := p.store ⟨path, .serve⟩
    discard <| Program.runOnce p
    Program.serve p s
    return 0
  | .ok ⟨path, .watch url title prepend⟩ =>
    match Url.parse url with
    | .error _ => Program.runOnce p
    | .ok u =>
      let s := p.store ⟨path, .watch url title prepend⟩
      Program.carryOut p.files p.openLog.2
      Program.writeLog p [p.startNote, Launch.storeNote s]
      Program.watch p s (Page.load u title) prepend
      return 0
  | _ => Program.runOnce p
