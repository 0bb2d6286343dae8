import PageTitle.Message
import PageTitle.Page

/-!
# Observers

An observer keeps the title of a page formatted. It notices titles that the page writes, asks a
renderer for their formatted form and writes that back, and it must not take what it wrote itself
for a new title of the page: for this it remembers the title that the page showed after the last
write.
-/

namespace PageTitle

/-- An observer of a page: the raw title for which a request is still to be made, the last formatted
title with its suffix, and the title that the page showed after that was written. -/
structure Observer where
  page : Page
  pending : Option Text := none
  formatted : Option Text := none
  suffix : Option Text := none
  shown : Option Text := none

/-- What became of an answer: a title was written, it was the last one again, or there was none. -/
inductive Receipt where
  | written | unchanged | skipped
  deriving DecidableEq, Repr

namespace Observer

/-- An observer of a page, unless the page opted out. -/
def attach? (p : Page) : Option Observer := if p.optedOut then none else some { page := p }

/-- Whether the page's title needs no new request: one is still to be made for it, or the observer
itself wrote it. -/
def redundant (o : Observer) : Bool :=
  o.pending = some o.page.title || o.shown = some o.page.title

/-- The observer after a notification that its page's title may have changed, and whether it asks for
a request. -/
def notice (o : Observer) : Bool × Observer :=
  if o.redundant then (false, o)
  else (true, { o with pending := some o.page.title, formatted := none })

/-- The request for the pending title, which is no longer pending. The renderer gets only the fields
of the location that it names. -/
def request (o : Observer) (fields : List Text) : Option FormatRequest × Observer :=
  (o.pending.map fun title =>
      ⟨o.page.location.copyFields fields, o.page.href, title, o.suffix⟩,
    { o with pending := none })

/-- The observer after a request that could not be made, so that the title is noticed again. -/
def giveUp (o : Observer) : Observer := { o with pending := none }

/-- The observer after an answer. A title is written unless it is the last formatted one. -/
def receive (o : Observer) : Option Update → Receipt × Observer
  | none => (.skipped, o)
  | some u =>
    if o.formatted = some u.title then (.unchanged, o)
    else
      let page := o.page.writeTitle u.title
      (.written, { o with
        page := page
        formatted := some u.title
        suffix := u.suffix
        shown := some page.title })

/-- One round: notice a new title, request its formatted form from a renderer and take the answer.
Without a new title there is nothing to do. -/
def cycle (o : Observer) (fields : List Text) (render : FormatRequest → Option Update) :
    Option Receipt × Observer :=
  match o.notice with
  | (false, o) => (none, o)
  | (true, o) =>
    match o.request fields with
    | (none, o) => (none, o)
    | (some r, o) =>
      let (receipt, o) := o.receive (render r)
      (some receipt, o)

/-- The observer of the page after the page changed its own title. -/
def setTitle (o : Observer) (t : Text) : Observer := { o with page := o.page.setTitle t }

end Observer
end PageTitle
