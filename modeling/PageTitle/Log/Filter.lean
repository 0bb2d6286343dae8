import PageTitle.Log.Record
import PageTitle.Text.Digits
import PageTitle.Text.Split
import PageTitle.Unicode.Query

/-!
# Log filters

A filter is a list of directives. One says how much of the parts under a name is logged, and for a
record the one with the longest name counts.
-/

namespace PageTitle.Log

/-- How much is logged: nothing, or all up to a level. -/
abbrev Limit := Option Level

/-- What is logged of the parts whose names start with a target; the empty target is the start of
all names. -/
structure Directive where
  target : Text
  limit : Limit
  deriving DecidableEq, Repr

structure Filter where
  directives : List Directive
  deriving DecidableEq, Repr

/-- The limit that a word stands for, in either case or as a rank. -/
def Limit.ofText? (t : Text) : Option Limit :=
  if t.map Text.lowerAscii = "off".toList || t = ['0'] then some none
  else (Level.all.find? fun l =>
    t.map Text.lowerAscii = l.name.map Text.lowerAscii || t = Text.decimal l.rank).map some

/-- Whether a character may stand in a target. -/
def isTargetChar (c : Char) : Bool :=
  c = ':' || c = '-' || UnicodeQuery.wordChars.contains c

/-- Reads a directive: a limit for all parts, a target with a limit, or a target alone, of which all
is logged. -/
def Directive.ofText? (t : Text) : Option Directive :=
  match Limit.ofText? t with
  | some limit => some ⟨[], limit⟩
  | none =>
    let (target, rest) := (t.takeWhile isTargetChar, t.dropWhile isTargetChar)
    if target.isEmpty then none
    else match rest with
      | [] => some ⟨target, some .trace⟩
      | ['='] => some ⟨target, some .trace⟩
      | '=' :: limit => (Limit.ofText? limit).map (⟨target, ·⟩)
      | _ => none

namespace Filter

/-- Reads a list of directives between commas, where empty ones count for nothing. Without any, only
errors are logged. -/
def ofText? (t : Text) : Option Filter := do
  let l ← ((Text.split ',' t).filter (!·.isEmpty)).mapM Directive.ofText?
  some ⟨if l.isEmpty then [⟨[], some .error⟩] else l⟩

/-- The filter of a user who chose none. -/
def standard : Filter := ⟨[⟨[], some .info⟩, ⟨"urlintitle".toList, some .debug⟩]⟩

/-- The directive that counts for a target: the one with the longest name, and the last of those. -/
def select (target : Text) : List Directive → Option Directive
  | [] => none
  | d :: r =>
    match select target r with
    | some d' =>
      if d.target.isPrefixOf target && d.target.length > d'.target.length then some d else some d'
    | none => if d.target.isPrefixOf target then some d else none

/-- Whether a record is logged. -/
def enabled (f : Filter) (r : Record) : Bool :=
  match select r.target f.directives with
  | some ⟨_, some limit⟩ => r.level.rank ≤ limit.rank
  | _ => false

end Filter
end PageTitle.Log
