import PageTitle.Domain.Basic
import PageTitle.Url.Address
import PageTitle.Url.Percent

/-!
# Hosts

The host of a web address is a domain name, an internet address or, where the scheme is not a
special one, any name without delimiters.
-/

namespace PageTitle

/-- Why a text is no web address. -/
inductive UrlError where
  | noScheme | emptyHost | invalidDomain | invalidHostCharacter | invalidIPv4 | invalidIPv6
  | invalidPort
  deriving DecidableEq, Repr

namespace UrlError

def message : UrlError → Text
  | noScheme => "relative URL without a base".toList
  | emptyHost => "empty host".toList
  | invalidDomain => "invalid international domain name".toList
  | invalidHostCharacter => "invalid domain character".toList
  | invalidIPv4 => "invalid IPv4 address".toList
  | invalidIPv6 => "invalid IPv6 address".toList
  | invalidPort => "invalid port number".toList

end UrlError

inductive Host where
  | domain (name : Text)
  | name (encoded : Text)
  | ipv4 (address : Nat)
  | ipv6 (groups : List Nat)
  deriving DecidableEq, Repr

namespace Host

/-- How a web address shows the host. -/
def toText : Host → Text
  | domain n => n
  | name n => n
  | ipv4 a => IPv4.toText a
  | ipv6 g => '[' :: (IPv6.toText g ++ [']'])

/-- Reads an address in brackets. -/
def bracketed (t : Text) : Except UrlError Host :=
  match (Text.dropBack? [']'] t).bind IPv6.parse? with
  | some groups => .ok (ipv6 groups)
  | none => .error .invalidIPv6

/-- Reads the host of a special scheme. -/
def parse (t : Text) : Except UrlError Host :=
  match t with
  | '[' :: r => bracketed r
  | _ =>
    match (Utf8.decode? (Percent.decode t).toByteArray).bind Domain.toAscii? with
    | none => .error .invalidDomain
    | some d =>
      if d.isEmpty then .error .emptyHost
      else if IPv4.endsInNumber d then
        match IPv4.parse? d with
        | some a => .ok (ipv4 a)
        | none => .error .invalidIPv4
      else .ok (domain d)

/-- The characters that no host name holds. -/
def delimiter (c : Char) : Bool :=
  c = Char.ofNat 0 || c = '\t' || c = '\n' || c = '\r' || " #/:<>?@[\\]^|".toList.contains c

/-- Reads the host of any other scheme; there is none where the text is empty. -/
def parseName (t : Text) : Except UrlError (Option Host) :=
  match t with
  | [] => .ok none
  | '[' :: r => (bracketed r).map some
  | _ =>
    if t.any delimiter then .error .invalidHostCharacter
    else .ok (some (name (Percent.encode Percent.controls t)))

/-- A domain name in the form that people read; nothing for other hosts. -/
def display? (t : Text) : Option Text :=
  match parse t with
  | .ok (domain d) => some (Domain.toUnicode d)
  | _ => none

end Host
end PageTitle
