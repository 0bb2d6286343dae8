import PageTitle.Format

/-!
# Updates

A page may build its next title from the one it shows, and so bring back what a render appended.
Where the format puts the title first and once, `Update.make` therefore takes the suffix of the
last render off the raw title before it renders, and gives back the new suffix.
-/

namespace PageTitle

/-- A rendered title and, where the format tracks it, the suffix that follows the title in it. -/
structure Update where
  title : Text
  suffix : Option Text
  deriving DecidableEq, Repr

namespace Update

/-- A raw title without the suffix of the last render. -/
def strip (previous : Option Text) (title : Text) : Text :=
  match previous with
  | none => title
  | some s => if s.isEmpty then title else (Text.dropBack? s title).getD title

/-- The update of the page's title, given the suffix of the last one. -/
def make (format : Text) (env : Environment) (previous : Option Text) : Update :=
  if Format.tracksSuffix format then
    { title := Format.render format { env with title := strip previous env.title }
      suffix := some (Format.render format { env with title := [] }) }
  else
    { title := Format.render format env, suffix := none }

end Update
end PageTitle
