import PageTitle.Format
import PageTitle.Pattern.Basic

/-!
# Options

What a user chooses: the format of titles, and patterns that select the addresses of the pages
whose titles are changed. Options are normalized when they are stored and when they are read.
-/

namespace PageTitle

/-- The format of titles and the filter of addresses: with `whitelist` only pages with a matching
pattern are changed, without it only those with none. -/
structure Options where
  format : Text := Format.standard
  whitelist : Bool := false
  patterns : List Text := []
  deriving DecidableEq, Repr

namespace Options

/-- The names of the choices where options are written down. -/
def formatKey : Text := "format".toList
def whitelistKey : Text := "url_filter_is_whitelist".toList
def patternsKey : Text := "url_filter_regexps".toList

/-- The options with the format normalized and without empty patterns. -/
def normalize (o : Options) : Options :=
  { o with format := Text.normalize o.format, patterns := o.patterns.filter (!·.isEmpty) }

/-- The first text of a list that is no pattern, and why. -/
def firstInvalid? : List Text → Option (Text × PatternError)
  | [] => none
  | p :: r =>
    match Pattern.compile p with
    | .error e => some (p, e)
    | .ok _ => firstInvalid? r

/-- The first of the patterns that is not valid, and why. -/
def invalid? (o : Options) : Option (Text × PatternError) := firstInvalid? o.patterns

end Options

/-- The filter of addresses, with its patterns compiled. -/
structure UrlFilter where
  whitelist : Bool
  patterns : List (Pattern.Expr Pattern.Atom)

namespace UrlFilter

/-- The filter of some options. Patterns that are empty or not valid never match. -/
def ofOptions (o : Options) : UrlFilter :=
  ⟨o.whitelist, o.patterns.filterMap fun p =>
    if p.isEmpty then none else (Pattern.compile p).toOption⟩

/-- Whether the page at an address is one to change. -/
def accepts (f : UrlFilter) (url : Text) : Bool := f.patterns.any (·.found url) == f.whitelist

end UrlFilter

namespace Options

/-- Whether the options select the page at an address. -/
def accepts (o : Options) (url : Text) : Bool := (UrlFilter.ofOptions o).accepts url

end Options
end PageTitle
