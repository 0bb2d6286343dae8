import PageTitle.Log.Notes

/-!
# Watching a page

A page whose title is written from outside, one line after the other, while an observer keeps it
formatted. The next line is written when the session has come to rest.
-/

namespace PageTitle.Watch

/-- A renderer in the same program, which answers at once from the options of a store. -/
def setting (store : Store) : Setting where
  store := store
  capacity := 16
  constantsPlan _ := {}
  formatPlan _ := {}

/-- A session at a moment, and what it has told so far. -/
structure State where
  session : Session
  log : List Log.Record := []

/-- The state when all calls are answered. -/
def settle (g : Setting) (s : State) : State :=
  ⟨s.session.run g, s.log ++ Log.sessionNotes g s.session⟩

/-- The state after the observer formatted the first title of the page. -/
def first (g : Setting) (o : Observer) (files : FileTree) : State :=
  settle g ⟨Session.start o files [] true, []⟩

/-- The state after a line was written and formatted. -/
def next (g : Setting) (prepend : Bool) (s : State) (line : Text) : State :=
  settle g { s with session := s.session.act g (if prepend then .prepend line else .set line) }

def State.title (s : State) : Text := s.session.observer.page.title

/-- The states after the first title and after each line. -/
def states (g : Setting) (prepend : Bool) (s : State) : List Text → List State
  | [] => [s]
  | line :: r => s :: states g prepend (next g prepend s line) r

end PageTitle.Watch
