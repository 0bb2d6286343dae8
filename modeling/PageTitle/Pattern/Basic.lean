import PageTitle.Pattern.Match
import PageTitle.Pattern.Reader
import PageTitle.Pattern.Size

/-!
# Patterns

A pattern is a regular expression that is searched for in addresses. `compile` refuses texts that
are not well formed and those whose automaton would be too large.
-/

namespace PageTitle

/-- Why a text is no pattern. -/
inductive PatternError where
  | malformed | tooLarge
  deriving DecidableEq, Repr

namespace PatternError

/-- The first line of the explanation. -/
def message : PatternError → Text
  | malformed => "regex parse error:".toList
  | tooLarge => "Compiled regex exceeds size limit of ".toList ++
      Text.decimal Pattern.Expr.maxSize ++ " bytes.".toList

end PatternError

namespace Pattern

/-- What a pattern says. -/
def compile (t : Text) : Except PatternError (Expr Atom) :=
  match read? t with
  | none => .error .malformed
  | some e => if e.fits then .ok e else .error .tooLarge

/-- Whether a text is a pattern. -/
def valid (t : Text) : Bool := (compile t).toOption.isSome

end Pattern
end PageTitle
