import PageTitle.Options
import PageTitle.Toml.Printer
import PageTitle.Toml.Reader

/-!
# The text of an options file

Options are kept as a TOML document with one member for each choice. A document with other members
holds options too, and a choice that is not made is the standard one.
-/

namespace PageTitle
namespace Options

/-- The text of a file that holds the options. -/
def fileText (o : Options) : Text :=
  Toml.printLine formatKey (Toml.printString o.format) ++
    Toml.printLine whitelistKey (Toml.printBool o.whitelist) ++
    Toml.printLine patternsKey (Toml.printArray o.patterns)

/-- The text that a value is. -/
def textOf? : Toml.Node → Option Text
  | .text t => some t
  | _ => none

/-- The texts that a value is an array of. -/
def textsOf? : Toml.Node → Option (List Text)
  | .array items => items.mapM textOf?
  | _ => none

/-- The truth value that a value is. -/
def boolOf? : Toml.Node → Option Bool
  | .bool b => some b
  | _ => none

/-- What a document says for a name, or else the standard; a value of another kind is an error. -/
def choice? {α : Type} (m : Toml.Members) (k : Text) (value? : Toml.Node → Option α) (standard : α) :
    Option α :=
  match m.lookup k with
  | none => some standard
  | some v => value? v

/-- The options of a document. -/
def ofMembers? (m : Toml.Members) : Option Options := do
  let standard : Options := {}
  let format ← choice? m formatKey textOf? standard.format
  let whitelist ← choice? m whitelistKey boolOf? standard.whitelist
  let patterns ← choice? m patternsKey textsOf? standard.patterns
  some ⟨format, whitelist, patterns⟩

/-- The options that the text of a file holds. -/
def ofFileText? (t : Text) : Option Options := do ofMembers? (← Toml.read? t)

end Options
end PageTitle
