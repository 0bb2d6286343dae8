import PageTitle.Observer
import PageTitle.Service
import PageTitle.Store.Basic

/-!
# Sessions

A session is the life of an observer: the page changes and notifies it through a queue, and it
calls a renderer, whose answers take time, may come in any order and may fail to come at all.

A script fixes what the page does and when, and how long each call takes; time counts in
milliseconds from the start.
-/

namespace PageTitle

/-- What happens at a moment of a script: the page changes its title or notifies for nothing,
options are saved or the file of options is overwritten, or somebody looks at the title. -/
inductive Action where
  | set (t : Text)
  | prepend (t : Text)
  | append (t : Text)
  | notify
  | save (o : Options)
  | overwrite (t : Text)
  | look
  deriving DecidableEq, Repr

/-- Actions that happen at one moment. -/
structure Event where
  time : Nat
  actions : List Action
  deriving DecidableEq, Repr

/-- How a call ends: with an answer, with an error, or never as such, because what should have
answered it died. -/
inductive Ending where
  | answered | failed | died
  deriving DecidableEq, Repr

/-- What becomes of a call: how long it takes, how it ends and, where it asks what the renderer needs,
the fields that are advertised. -/
structure Plan where
  delay : Nat := 0
  ending : Ending := .answered
  fields : List Text := LocationField.all.map LocationField.name
  deriving DecidableEq, Repr

/-- What a call asks the renderer for. -/
inductive Query where
  | constants
  | format (r : FormatRequest)
  deriving DecidableEq, Repr

/-- A call in flight, the moment when it ends and how. Calls of each kind are counted from zero. -/
structure Call where
  query : Query
  number : Nat
  due : Nat
  ending : Ending
  fields : List Text
  deriving DecidableEq, Repr

/-- What a session is known by from outside: the calls in the order in which they start, and the
titles that are written. -/
inductive Sign where
  | constants (call time : Nat)
  | format (call : Nat) (title : Text) (previous : Option Text) (time : Nat)
  | write (title : Text) (time : Nat)
  deriving DecidableEq, Repr

/-- What does not change in a session: the store that the renderer loads its options from, the
length of the queue, and the plans of calls. -/
structure Setting where
  store : Store
  capacity : Nat
  constantsPlan : Nat → Plan
  formatPlan : Nat → Plan

/-- A session at a moment. The queue holds notifications, which are all alike, so that only their
number counts; while it is open, what changes the title notifies. -/
structure Session where
  observer : Observer
  files : FileTree
  events : List Event
  time : Nat := 0
  queued : Nat := 0
  isOpen : Bool := true
  calls : List Call := []
  constantsCalls : Nat := 0
  formatCalls : Nat := 0
  signs : List Sign := []
  looks : List Text := []

namespace Session

/-- Puts a notification into the queue if that is open and not full. -/
def notify (capacity : Nat) (s : Session) : Session :=
  if s.isOpen && s.queued < capacity then { s with queued := s.queued + 1 } else s

/-- Starts a call for what the renderer needs. -/
def callConstants (g : Setting) (s : Session) : Session :=
  let plan := g.constantsPlan s.constantsCalls
  { s with
    calls := s.calls ++ [⟨.constants, s.constantsCalls, s.time + plan.delay, plan.ending, plan.fields⟩]
    constantsCalls := s.constantsCalls + 1
    signs := s.signs ++ [.constants s.constantsCalls s.time] }

/-- Starts a call for a formatted title. -/
def callFormat (g : Setting) (s : Session) (r : FormatRequest) : Session :=
  let plan := g.formatPlan s.formatCalls
  { s with
    calls := s.calls ++ [⟨.format r, s.formatCalls, s.time + plan.delay, plan.ending, plan.fields⟩]
    formatCalls := s.formatCalls + 1
    signs := s.signs ++ [.format s.formatCalls r.title r.previous s.time] }

/-- The observer looks at the title, and asks what the renderer needs if the title is new. -/
def notice (g : Setting) (s : Session) : Session :=
  match s.observer.notice with
  | (false, _) => s
  | (true, o) => callConstants g { s with observer := o }

/-- The observer is told what the renderer needs, and asks for the formatted title if it still wants
one. -/
def dispatch (g : Setting) (s : Session) (fields : List Text) : Session :=
  match s.observer.request fields with
  | (none, o) => { s with observer := o }
  | (some r, o) => callFormat g { s with observer := o } r

/-- The observer receives an answer. A title that it writes notifies like any other. -/
def receive (g : Setting) (s : Session) (u : Option Update) : Session :=
  match u, s.observer.receive u with
  | some u, (.written, o) =>
    notify g.capacity { s with observer := o, signs := s.signs ++ [.write u.title s.time] }
  | _, (_, o) => { s with observer := o }

/-- The end of a call. The renderer loads its options at this moment; without options there is no
answer. -/
def finish (g : Setting) (s : Session) (c : Call) : Session :=
  match c.query, c.ending with
  | .constants, .answered => dispatch g s c.fields
  | .constants, .failed => { s with observer := s.observer.giveUp }
  | .format r, .answered =>
    match g.store.load s.files with
    | .ok o => receive g s (Service.format o r)
    | .error _ => s
  | _, _ => s

/-- The page changes its own title, and notifies. -/
def setTitle (g : Setting) (s : Session) (t : Text) : Session :=
  notify g.capacity { s with observer := s.observer.setTitle t }

/-- The tree with other contents of the file of options, if they can be written. -/
def overwrite (g : Setting) (files : FileTree) (t : Text) : FileTree :=
  (files.replace g.store.path (Utf8.encode t)).toOption.getD files

/-- One action. -/
def act (g : Setting) (s : Session) : Action → Session
  | .set t => setTitle g s t
  | .prepend t => setTitle g s (t ++ s.observer.page.title)
  | .append t => setTitle g s (s.observer.page.title ++ t)
  | .notify => notify g.capacity s
  | .save o =>
    match g.store.save s.files o with
    | .ok (_, files) => { s with files := files }
    | .error _ => s
  | .overwrite t => { s with files := overwrite g s.files t }
  | .look => { s with looks := s.looks ++ [s.observer.page.title] }

end Session
end PageTitle
