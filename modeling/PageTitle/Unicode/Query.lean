import PageTitle.Unicode.GeneralCategory
import PageTitle.Unicode.Property
import PageTitle.Unicode.Script

/-!
# Queries for sets of characters

The characters that a name such as `Greek` or `Lu`, or a property with a value such as `age` and
`3.2`, asks for. Case, blanks, hyphens, underscores and a leading `is` make no difference in
names.
-/

namespace PageTitle.UnicodeQuery

/-- A name in loose form. Without its leading `is`, the short name `isc` would read as another
one. -/
def loose (name : Text) : String :=
  let isForm := match name with
    | i :: s :: _ => (i = 'i' || i = 'I') && (s = 's' || s = 'S')
    | _ => false
  let kept := ((if isForm then name.drop 2 else name).filter fun c =>
    c.toNat < 0x80 && !(c = ' ' || c = '_' || c = '-')).map Char.toLower
  if isForm && kept = ['c'] then "isc" else String.ofList kept

/-- The code points that have a category. -/
def category? (name : String) : Option CharSet :=
  if name = "any" then some CharSet.all
  else if name = "ascii" then some (CharSet.range 0 0x7F)
  else if name = "assigned" then some GeneralCategory.unassigned.set.compl
  else GeneralCategory.named? name

/-- The characters of a binary property, a category or a script. Three short names of categories
are short names of properties too. -/
def named? (name : Text) : Option CharSet :=
  let n := loose name
  let property := if n = "cf" || n = "sc" || n = "lc" then none else Property.named? n
  (property.orElse fun _ => category? n).orElse fun _ => (Script.named? n).map Script.set

/-- The characters whose property of a given name has a given value. -/
def valued? (name value : Text) : Option CharSet :=
  let n := loose name
  let v := loose value
  if n = "generalcategory" || n = "gc" then category? v
  else if n = "script" || n = "sc" then (Script.named? v).map Script.set
  else if n = "scriptextensions" || n = "scx" then (Script.named? v).map Script.extensions
  else if n = "age" then Property.upToAge? v
  else if n = "graphemeclusterbreak" || n = "gcb" then
    (Property.find? Property.graphemeBreaks v).map Property.set
  else if n = "wordbreak" || n = "wb" then
    (Property.find? Property.wordBreaks v).map Property.set
  else if n = "sentencebreak" || n = "sb" then
    (Property.find? Property.sentenceBreaks v).map Property.set
  else none

/-- The characters of a binary property of which the name is known. -/
def binary (name : String) : CharSet := (Property.named? name).getD CharSet.empty

/-- Letters, and what is used like them. -/
def alphabetic : CharSet := binary "alphabetic"

def decimalDigits : CharSet := GeneralCategory.decimalNumber.set

def numbers : CharSet := GeneralCategory.union [.decimalNumber, .letterNumber, .otherNumber]

def blanks : CharSet := binary "whitespace"

/-- The characters that words are made of. -/
def wordChars : CharSet :=
  CharSet.unions [alphabetic, GeneralCategory.marks, decimalDigits,
    GeneralCategory.connectorPunctuation.set, binary "joincontrol"]

end PageTitle.UnicodeQuery
