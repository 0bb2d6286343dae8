import PageTitle.Text.Basic

/-!
# Arguments of commands

A command takes options, which start with two hyphens, and positional arguments. An option is a
flag or takes a value, written behind an equals sign or as the next argument. After an argument of
two hyphens all others are positional.

An argument that starts with a hyphen is a value only where it can be nothing else: an option or a
position may admit such values.
-/

namespace PageTitle.Grammar

/-- What an option takes: nothing, a value that may not be empty, a value, or one value each time it
is given. An option of another kind than the last is given once at most. -/
inductive Arity where
  | flag | path | value | values
  deriving DecidableEq, Repr

structure OptionRule where
  name : Text
  arity : Arity
  /-- Whether every next argument is the value, also one that looks like an option. -/
  admitsHyphen : Bool := false
  deriving DecidableEq, Repr

/-- What a command takes. A position is known by whether it admits a hyphen. -/
structure Rules where
  options : List OptionRule
  positions : List Bool := []
  /-- Commands below this one, if one of them has to follow. -/
  commands : List Text := []
  deriving Repr

/-- Why there is nothing to run: the user asked for help, or the arguments make no command. -/
inductive Refusal where
  | help | usage
  deriving DecidableEq, Repr

/-- What was given: options with their values, positional arguments, and the name of a command below
with the arguments that follow it. -/
structure Given where
  options : List (Text × Text) := []
  positional : List Text := []
  next : Option (Text × List Text) := none
  deriving DecidableEq, Repr

namespace Given

def has (g : Given) (name : Text) : Bool := g.options.any (·.1 = name)

/-- The values of an option, in order. -/
def values (g : Given) (name : Text) : List Text :=
  (g.options.filter (·.1 = name)).map (·.2)

def value? (g : Given) (name : Text) : Option Text := (g.values name).head?

/-- Adds an option with its value. -/
def addOption (g : Given) (r : OptionRule) (v : Text) : Except Refusal Given :=
  if (r.arity ≠ .values && g.has r.name) || (r.arity = .path && v.isEmpty) then .error .usage
  else .ok { g with options := g.options ++ [(r.name, v)] }

end Given

/-- Whether the reader waits for the value of an option, takes all arguments as positional, or
neither. -/
inductive Mode where
  | any
  | valueOf (r : OptionRule)
  | positional

/-- What an argument looks like. -/
inductive Shape where
  | twoHyphens
  | long (name : Text) (value : Option Text)
  | short (letters : Text)
  | plain

def shape : Text → Shape
  | ['-', '-'] => .twoHyphens
  | '-' :: '-' :: t =>
    match Text.cut? (· = '=') t with
    | some (name, v) => .long name (some v)
    | none => .long t none
  | '-' :: c :: r => .short (c :: r)
  | _ => .plain

def helpName : Text := "help".toList

def helpLetter : Char := 'h'

/-- What an argument is to the reader. -/
inductive Role where
  | separator
  | option (r : OptionRule) (value : Option Text)
  | help
  | value
  | unknown

/-- The role of an argument, where `hyphen` tells whether the next position admits a hyphen. -/
def role (rules : Rules) (hyphen : Bool) (a : Text) : Role :=
  match shape a with
  | .plain => .value
  | .twoHyphens => .separator
  | .long name v =>
    match rules.options.find? (·.name = name) with
    | some r => .option r v
    | none =>
      if name = helpName then (if v.isSome then .unknown else .help)
      else if hyphen then .value else .unknown
  | .short letters =>
    if hyphen && letters.any (· ≠ helpLetter) then .value
    else if letters.head? = some helpLetter then .help
    else .unknown

/-- Whether the next positional argument may start with a hyphen. -/
def nextAdmitsHyphen (rules : Rules) (g : Given) : Bool :=
  (rules.positions[g.positional.length]?).getD false

/-- Adds a positional argument. -/
def addPositional (rules : Rules) (g : Given) (a : Text) : Except Refusal Given :=
  if g.positional.length < rules.positions.length then
    .ok { g with positional := g.positional ++ [a] }
  else .error .usage

/-- Reads the arguments of a command up to the name of a command below it. -/
def read (rules : Rules) : Mode → Given → List Text → Except Refusal Given
  | .valueOf _, _, [] => .error .usage
  | _, g, [] => .ok g
  | .positional, g, a :: rest => do read rules .positional (← addPositional rules g a) rest
  | .valueOf r, g, a :: rest => do
    if r.admitsHyphen then read rules .any (← g.addOption r a) rest
    else match role rules (nextAdmitsHyphen rules g) a with
      | .value => read rules .any (← g.addOption r a) rest
      | _ => .error .usage
  | .any, g, a :: rest => do
    if rules.commands.contains a then .ok { g with next := some (a, rest) }
    else match role rules (nextAdmitsHyphen rules g) a with
      | .separator => read rules .positional g rest
      | .option r none =>
        if r.arity = .flag then read rules .any (← g.addOption r []) rest
        else read rules (.valueOf r) g rest
      | .option r (some v) =>
        if r.arity = .flag then .error .usage else read rules .any (← g.addOption r v) rest
      | .help => .error .help
      | .value => read rules .any (← addPositional rules g a) rest
      | .unknown => .error .usage

end PageTitle.Grammar
