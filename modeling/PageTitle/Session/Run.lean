import PageTitle.Session.Basic

/-!
# The course of a session

`next?` selects what happens next, `step` makes it happen, and `run` goes on until nothing is left.
Notifications come before all else, and then the call or the event that is due first. `weight`
bounds how often something can still happen.
-/

namespace PageTitle

/-- What can happen next in a session. -/
inductive Move where
  | notice
  | finish (c : Call)
  | event (e : Event)
  deriving DecidableEq, Repr

namespace Session

/-- The call that ends first; of several at one moment, the one that started first. -/
def firstDue : List Call → Option Call
  | [] => none
  | c :: r =>
    match firstDue r with
    | none => some c
    | some d => if d.due < c.due then some d else some c

/-- What happens next, if anything is left. -/
def next? (s : Session) : Option Move :=
  if s.queued > 0 then some .notice
  else match firstDue s.calls, s.events with
    | none, [] => none
    | some c, [] => some (.finish c)
    | none, e :: _ => some (.event e)
    | some c, e :: _ => if c.due ≤ e.time then some (.finish c) else some (.event e)

/-- The session without the notification that waits longest. -/
def dequeue (s : Session) : Session := { s with queued := s.queued - 1 }

/-- The session at the end of a call. -/
def withoutCall (s : Session) (c : Call) : Session :=
  { s with calls := s.calls.erase c, time := max s.time c.due }

/-- The session at the next event. -/
def withoutEvent (s : Session) (e : Event) : Session :=
  { s with events := s.events.tail, time := max s.time e.time }

/-- Some actions, one after the other. -/
def actAll (g : Setting) (s : Session) (l : List Action) : Session := l.foldl (act g) s

/-- The session with the queue closed if there are no more events. -/
def close (s : Session) : Session := { s with isOpen := s.isOpen && !s.events.isEmpty }

/-- The session after a move. -/
def step (g : Setting) (s : Session) : Move → Session
  | .notice => notice g s.dequeue
  | .finish c => finish g (s.withoutCall c) c
  | .event e => close (actAll g (s.withoutEvent e) e.actions)

/-- At most how many moves a list of events leads to. -/
def eventsWeight : List Event → Nat
  | [] => 0
  | e :: r => 1 + 4 * e.actions.length + eventsWeight r

/-- At most how many moves a call leads to. -/
def callWeight (c : Call) : Nat :=
  match c.query with
  | .constants => 3
  | .format _ => 2

/-- At most how many moves some calls lead to. -/
def callsWeight : List Call → Nat
  | [] => 0
  | c :: r => callWeight c + callsWeight r

@[simp] theorem callsWeight_append (l r : List Call) :
    callsWeight (l ++ r) = callsWeight l + callsWeight r := by
  induction l with
  | nil => simp [callsWeight]
  | cons c l ih => simp [callsWeight, ih]; omega

/-- At most how many moves are left. Each notification is one, and the first that finds a new title
leads to a call for what the renderer needs, a call for the formatted title and the notification of
that title's writing. -/
def weight (s : Session) : Nat :=
  eventsWeight s.events + callsWeight s.calls + s.queued +
    (if s.queued > 0 && !s.observer.redundant then 3 else 0)

/-- The session after at most `n` moves. -/
def runFor (g : Setting) : (n : Nat) → Session → Session
  | 0, s => s
  | n + 1, s =>
    match s.next? with
    | none => s
    | some m => runFor g n (s.step g m)

/-- The moves of a session, each with the session before it. -/
def course (g : Setting) : (n : Nat) → Session → List (Session × Move)
  | 0, _ => []
  | n + 1, s =>
    match s.next? with
    | none => []
    | some m => (s, m) :: course g n (s.step g m)

/-- The session when nothing is left to happen. -/
def run (g : Setting) (s : Session) : Session := s.runFor g s.weight

/-- The start of a session. The observer looks at the first title without being notified, which comes
to the same as a notification that waits. -/
def start (o : Observer) (files : FileTree) (events : List Event) (isOpen : Bool) : Session :=
  { observer := o, files, events, queued := 1, isOpen }

/-- The start of a session with a script, which closes the queue after the last event. -/
def ofScript (o : Observer) (files : FileTree) (events : List Event) : Session :=
  start o files events (!events.isEmpty)

end Session
end PageTitle
