import PageTitle.Text.Basic

/-!
# Log records

A record says what a part of the program did. `Record.line` is how it is written, without the
time.
-/

namespace PageTitle.Log

inductive Level where
  | error | warn | info | debug | trace
  deriving DecidableEq, Repr

namespace Level

def all : List Level := [error, warn, info, debug, trace]

def name : Level → Text
  | error => "ERROR".toList
  | warn => "WARN".toList
  | info => "INFO".toList
  | debug => "DEBUG".toList
  | trace => "TRACE".toList

/-- How much a level tells: one that tells more has a greater rank. -/
def rank : Level → Nat
  | error => 1
  | warn => 2
  | info => 3
  | debug => 4
  | trace => 5

end Level

/-- A message of a part of the program. -/
structure Record where
  level : Level
  target : Text
  message : Text
  deriving DecidableEq, Repr

namespace Record

def line (r : Record) : Text := r.level.name ++ ' ' :: r.target ++ ": ".toList ++ r.message

end Record

/-- A message with a named value behind it. -/
def withField (message : Text) (name : String) (value : Text) : Text :=
  message ++ ' ' :: name.toList ++ '=' :: value

end PageTitle.Log
