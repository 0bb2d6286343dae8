import PageTitle.Location
import PageTitle.Url.Host

/-!
# Tags

A tag names one part of an environment. A format writes it in braces.
-/

namespace PageTitle

inductive Tag where
  | title | protocol | hostname | hostnameAscii | port | path | args | hash
  deriving DecidableEq, Repr

namespace Tag

/-- All tags, in the order in which they are listed. -/
def all : List Tag := [title, protocol, hostname, hostnameAscii, port, path, args, hash]

def name : Tag → Text
  | title => "title".toList
  | protocol => "protocol".toList
  | hostname => "hostname".toList
  | hostnameAscii => "hostnameascii".toList
  | port => "port".toList
  | path => "path".toList
  | args => "args".toList
  | hash => "hash".toList

def ofName? (t : Text) : Option Tag := all.find? (·.name = t)

/-- A name in braces. -/
def braced (name : Text) : Text := '{' :: (name ++ ['}'])

/-- How a format writes the tag. -/
def placeholder (t : Tag) : Text := braced t.name

def description : Tag → Text
  | title => "The page title.".toList
  | protocol => "The URL protocol, without '://' suffix.".toList
  | hostname => "The URL hostname, converted from Punycode to Unicode.".toList
  | hostnameAscii => "The raw URL hostname, not converted from Punycode to Unicode.".toList
  | port => "The URL port, prefixed with ':' if not empty.".toList
  | path => "The URL path, without '/' prefix.".toList
  | args => "The URL arguments, prefixed with '?' if not empty.".toList
  | hash => "The URL hash, prefixed with '#' if not empty.".toList

/-- A hostname as people read it, and as it stands where it is no domain. -/
def hostnameText (h : Text) : Text := (Host.display? h).getD h

/-- The part of the environment that the tag stands for. -/
def value (t : Tag) (env : Environment) : Text :=
  match t with
  | title => env.title
  | protocol => env.location.protocol.erase ':'
  | hostname => hostnameText env.location.hostname
  | hostnameAscii => env.location.hostname
  | port => if env.location.port.isEmpty then [] else ':' :: env.location.port
  | path => (Text.dropFront? ['/'] env.location.pathname).getD env.location.pathname
  | args => env.location.search
  | hash => env.location.hash

/-- The value of the tag of a given name, and the braced name where there is no such tag. -/
def valueOf (name : Text) (env : Environment) : Text :=
  match ofName? name with
  | some t => t.value env
  | none => braced name

theorem ofName?_name (t : Tag) : ofName? t.name = some t := by
  cases t <;> decide

theorem name_of_ofName? {n : Text} {t : Tag} (h : ofName? n = some t) : t.name = n := by
  simpa using List.find?_some h

theorem close_notMem_name (t : Tag) : '}' ∉ t.name := by
  cases t <;> decide

end Tag
end PageTitle
