import PageTitle.Location
import PageTitle.Url.Host
import PageTitle.Url.Path

/-!
# Web addresses

The parts of a web address, how they are written in a row, and the location that they make.
-/

namespace PageTitle

/-- The part of a web address between two slashes and its path. User name and password stand in
one text, as they are written. -/
structure Authority where
  userinfo : Text
  host : Option Host
  port : Option Nat
  deriving DecidableEq, Repr

/-- A path with levels, or a text that has none. -/
inductive UrlPath where
  | segments (l : List Text)
  | whole (t : Text)
  deriving DecidableEq, Repr

structure Url where
  scheme : Text
  authority : Option Authority
  path : UrlPath
  query : Option Text
  fragment : Option Text
  deriving DecidableEq, Repr

namespace Authority

def hostText (a : Authority) : Text := (a.host.map Host.toText).getD []

def portText (a : Authority) : Text := (a.port.map Text.decimal).getD []

/-- The authority as it is written, with the slashes before it. -/
def toText (a : Authority) : Text :=
  "//".toList ++ (if a.userinfo.isEmpty then [] else a.userinfo ++ ['@']) ++ a.hostText ++
    (if a.port.isSome then ':' :: a.portText else [])

end Authority

namespace UrlPath

def toText : UrlPath → Text
  | segments l => Path.toText l
  | whole t => t

end UrlPath

namespace Url

/-- A part of an address with its mark; nothing where the address has no such part. -/
def marked (mark : Char) : Option Text → Text
  | some t => mark :: t
  | none => []

/-- What stands before the path: the authority, or, where a path without one starts with two
slashes, a dot that keeps them from starting an authority. -/
def beforePath (u : Url) : Text :=
  match u.authority with
  | some a => a.toText
  | none => if (Text.dropFront? "//".toList u.path.toText).isSome then "/.".toList else []

/-- The address in its one written form. -/
def href (u : Url) : Text :=
  u.scheme ++ [':'] ++ u.beforePath ++ u.path.toText ++ marked '?' u.query ++
    marked '#' u.fragment

/-- A part of an address with its mark; nothing where the part is empty. -/
def shown (mark : Char) (part : Option Text) : Text :=
  marked mark (part.filter (!·.isEmpty))

/-- The location of a page at the address. -/
def location (u : Url) : Location where
  protocol := u.scheme ++ [':']
  hostname := (u.authority.map Authority.hostText).getD []
  port := (u.authority.map Authority.portText).getD []
  pathname := u.path.toText
  search := shown '?' u.query
  hash := shown '#' u.fragment

end Url
end PageTitle
