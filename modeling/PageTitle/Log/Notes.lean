import PageTitle.Log.Quoted
import PageTitle.Log.Record
import PageTitle.Service
import PageTitle.Session.Run

/-!
# What is logged

The records of each operation, as functions of what the operation works on.
-/

namespace PageTitle
namespace Format

/-- The tags of the placeholders of a format, in order. -/
def tags (format : Text) : List Tag :=
  match format with
  | [] => []
  | c :: r =>
    if c = '{' then
      match _h : tagAt? r with
      | some (tag, rest) => tag :: tags rest
      | none => tags r
    else tags r
termination_by format.length
decreasing_by
  all_goals simp_wf
  have := length_lt_of_tagAt? _h
  omega

end Format

namespace Log

/-- Names of the parts of the program. -/
def startPart : Text := "urlintitle_core::logging".toList
def storePart : Text := "urlintitle_core::config::store".toList
def filterPart : Text := "urlintitle_core::url_filter".toList
def tagsPart : Text := "urlintitle_core::tags".toList
def servicePart : Text := "urlintitle_core::service".toList
def observerPart : Text := "urlintitle_core::controller".toList
def sessionPart : Text := "urlintitle_core::controller::driver".toList
def programPart : Text := "urlintitle::cli".toList
def renderPart : Text := "urlintitle::cli::commands::render".toList
def servePart : Text := "urlintitle::cli::commands::serve".toList

/-- Tags that show a hostname as people read it tell where it is no domain, each time a title is
rendered. -/
def renderNotes (format : Text) (env : Environment) : List Record :=
  let h := env.location.hostname
  if h.isEmpty || (Host.display? h).isSome then []
  else ((Format.tags format).filter (· = Tag.hostname)).map fun _ =>
    ⟨.debug, tagsPart,
      withField "hostname is not a convertible domain, keeping raw".toList "hostname" (quoted h)⟩

/-- An update of a format that tracks its suffix renders twice. -/
def updateNotes (format : Text) (env : Environment) : List Record :=
  let notes := renderNotes format env
  if Format.tracksSuffix format then notes ++ notes else notes

/-- Patterns that are not valid are told whenever a filter is made. -/
def filterNotes (o : Options) : List Record :=
  o.patterns.filterMap fun p =>
    match p.isEmpty, Pattern.compile p with
    | false, .error e => some ⟨.warn, filterPart,
        withField ("ignoring invalid URL filter pattern: ".toList ++ e.message) "pattern" p⟩
    | _, _ => none

def formatNotes (o : Options) (r : FormatRequest) : List Record :=
  filterNotes o ++
    if o.accepts r.url then updateNotes o.format ⟨r.location, r.title⟩
    else [⟨.debug, servicePart, withField "URL filtered out".toList "url" r.url⟩]

/-- What a renderer tells that cannot load its options. -/
def replyNotes (options : Except OptionsError Options) (message : Text) : List Record :=
  match Service.reply options message, Request.read? message, options with
  | .error e, _, _ => [⟨.warn, servePart, "render request failed: ".toList ++ e.message⟩]
  | .ok _, some (.format r), .ok o => formatNotes o r
  | _, _, _ => []

def noticeNotes (o : Observer) : List Record :=
  if o.redundant then
    [⟨.debug, observerPart,
      withField "dropping redundant title notification".toList "title" o.page.title⟩]
  else []

def requestNotes (o : Observer) : List Record :=
  if o.pending.isSome then []
  else [⟨.debug, observerPart, "constants arrived with no pending title".toList⟩]

def receiveNotes (o : Observer) (u : Option Update) : List Record :=
  match u, o.receive u with
  | some u, (.unchanged, _) =>
    [⟨.debug, observerPart, withField "formatted title unchanged".toList "title" u.title⟩]
  | _, (.written, o) =>
    [⟨.debug, sessionPart, withField "title updated".toList "title"
      ("Some(".toList ++ quoted (o.shown.getD []) ++ [')'])⟩]
  | _, _ => []

/-- What is told of the end of a call that is answered, as those to a renderer in the same program
are. -/
def finishNotes (g : Setting) (s : Session) (c : Call) : List Record :=
  match c.query with
  | .constants => requestNotes s.observer
  | .format r =>
    match g.store.load s.files with
    | .ok o => formatNotes o r ++ receiveNotes s.observer (Service.format o r)
    | .error e =>
      [⟨.warn, sessionPart, "render request failed, leaving title unchanged: ".toList ++
        (ServiceError.options e).message⟩]

def moveNotes (g : Setting) (s : Session) : Move → List Record
  | .notice => noticeNotes s.observer
  | .finish c => finishNotes g s c
  | .event _ => []

/-- What is told of a session from a moment on. -/
def sessionNotes (g : Setting) (s : Session) : List Record :=
  (s.course g s.weight).flatMap fun (s, m) => moveNotes g s m

end Log
end PageTitle
