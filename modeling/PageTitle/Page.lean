import PageTitle.Url.Parse

/-!
# Pages

A page shows a title that the page itself and an observer write. What it shows need not be what was
written: a page trims titles, as browsers do, and may cut those of the observer to a length.
-/

namespace PageTitle

/-- A page with what it makes of the titles that it sets itself and of those that an observer
writes, and the number of the latter. -/
structure Page where
  url : Url
  title : Text
  optedOut : Bool := false
  own : Text → Text := Text.trim
  kept : Text → Text := Text.trim
  writes : Nat := 0

namespace Page

/-- A page at an address with its first title. -/
def load (url : Url) (title : Text) : Page := { url, title := title.trim }

/-- The page after it changed its own title. -/
def setTitle (p : Page) (t : Text) : Page := { p with title := p.own t }

/-- The page after an observer wrote a title. -/
def writeTitle (p : Page) (t : Text) : Page :=
  { p with title := p.kept t, writes := p.writes + 1 }

def location (p : Page) : Location := p.url.location

def href (p : Page) : Text := p.url.href

end Page
end PageTitle
