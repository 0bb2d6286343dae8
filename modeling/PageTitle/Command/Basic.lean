import PageTitle.Store.Basic

/-!
# Commands

What a user can ask the program for.
-/

namespace PageTitle

inductive Command where
  /-- Print the title of a page, rendered by another format if one is given. -/
  | render (url title : Text) (format previous : Option Text)
  /-- List the tags. -/
  | tags
  /-- Print the title of the sample page, by another format if one is given. -/
  | preview (format : Option Text)
  | showOptions
  | setOptions (c : OptionsChange)
  | resetOptions
  /-- Answer one message a line. -/
  | serve
  /-- Observe a page whose title is written line by line, or has each line put before it. -/
  | watch (url title : Text) (prepend : Bool)
  deriving DecidableEq, Repr

/-- A command, and the path of the file of options if it is not the usual one. -/
structure Invocation where
  optionsPath : Option Text
  command : Command
  deriving DecidableEq, Repr

end PageTitle
