import PageTitle.Url.Basic

/-!
# Reading web addresses

`Url.parse` reads an address as browsers do: blanks around it and line ends in it count for nothing,
a backslash is a slash in the schemes of the web, and characters that may not stand in a part are
percent encoded. There must be a scheme.
-/

namespace PageTitle
namespace Url

/-- How the address of a scheme is built: an authority with a host, a path on a file system, or
whatever follows the scheme. -/
inductive SchemeKind where
  | special (port : Nat)
  | file
  | other
  deriving DecidableEq, Repr

/-- The kind of a scheme; a special one has a port of its own. -/
def schemeKind (scheme : Text) : SchemeKind :=
  if scheme = "http".toList || scheme = "ws".toList then .special 80
  else if scheme = "https".toList || scheme = "wss".toList then .special 443
  else if scheme = "ftp".toList then .special 21
  else if scheme = "file".toList then .file
  else .other

namespace SchemeKind

def isSpecial : SchemeKind → Bool
  | other => false
  | _ => true

/-- Whether a character is a slash under a scheme. -/
def isSlash (k : SchemeKind) (c : Char) : Bool := c = '/' || (k.isSpecial && c = '\\')

/-- Whether a character ends the authority. -/
def endsAuthority (k : SchemeKind) (c : Char) : Bool := k.isSlash c || c = '?' || c = '#'

end SchemeKind

/-- The text that is read: without control characters and spaces around it and without tabs and
line ends in it. -/
def clean (t : Text) : Text :=
  let edge : Char → Bool := fun c => c.toNat ≤ 0x20
  ((t.dropWhile edge).reverse.dropWhile edge).reverse.filter
    fun c => !(c = '\t' || c = '\n' || c = '\r')

/-- The scheme in lower case and what follows its colon. -/
def cutScheme? (t : Text) : Option (Text × Text) :=
  match Text.cut? (· = ':') t with
  | none => none
  | some (scheme, rest) =>
    if (scheme.head?.map Text.isAsciiLetter).getD false &&
        scheme.all (fun c =>
          Text.isAsciiLetter c || Text.isDigit 10 c || c = '+' || c = '-' || c = '.') then
      some (scheme.map Text.lowerAscii, rest)
    else none

/-- What follows the path: the query and the fragment, each after its mark. -/
structure Tail where
  query : Option Text
  fragment : Option Text

/-- Cuts the query and the fragment off an address without its scheme. -/
def cutTail (k : SchemeKind) (t : Text) : Text × Tail :=
  let (front, fragment) :=
    match Text.cut? (· = '#') t with
    | some (a, b) => (a, some (Percent.encode Percent.fragment b))
    | none => (t, none)
  let set := if k.isSpecial then Percent.specialQuery else Percent.query
  match Text.cut? (· = '?') front with
  | some (a, b) => (a, ⟨some (Percent.encode set b), fragment⟩)
  | none => (front, ⟨none, fragment⟩)

/-- The part of an authority before its last `@`, and the part after it. -/
def cutUserinfo? (t : Text) : Option (Text × Text) :=
  (Text.cut? (· = '@') t.reverse).map fun (back, front) => (front.reverse, back.reverse)

/-- User name and password with a colon between them; an empty password needs none. -/
def userinfo (t : Text) : Text :=
  match Text.cut? (· = ':') t with
  | none => Percent.encode Percent.userinfo t
  | some (user, password) =>
    Percent.encode Percent.userinfo user ++
      (if password.isEmpty then [] else ':' :: Percent.encode Percent.userinfo password)

/-- The host of an authority and what follows it: all up to a colon outside brackets. -/
def cutHost (bracket : Bool) : Text → Text × Text
  | [] => ([], [])
  | c :: r =>
    if c = ':' && !bracket then ([], c :: r)
    else
      let bracket := if c = '[' then true else if c = ']' then false else bracket
      let (host, rest) := cutHost bracket r
      (c :: host, rest)

/-- The largest port. -/
def maxPort : Nat := 65535

/-- The port after a host and what follows its digits, where `t` starts with a colon or is empty. A
scheme's own port is not kept. Only a backslash may follow the digits here. -/
def readPort (k : SchemeKind) (t : Text) : Except UrlError (Option Nat × Text) :=
  match t with
  | ':' :: r =>
    let digits := r.takeWhile (Text.isDigit 10)
    let rest := r.dropWhile (Text.isDigit 10)
    if !(rest.isEmpty || rest.head? = some '\\') then .error .invalidPort
    else match Text.number? 10 digits with
      | none => .ok (none, rest)
      | some n =>
        if n > maxPort then .error .invalidPort
        else .ok (if k = .special n then none else some n, rest)
  | _ => .ok (none, [])

/-- The host of an authority. -/
def readHost (k : SchemeKind) (t : Text) : Except UrlError (Option Host) :=
  if k.isSpecial then
    if t.isEmpty then .error .emptyHost else (Host.parse t).map some
  else Host.parseName t

/-- The user of an authority and what follows it. -/
def readUser (t : Text) (pathFollows : Bool) : Except UrlError (Text × Text) :=
  match cutUserinfo? t with
  | none => .ok ([], t)
  | some (front, rest) =>
    if front.isEmpty && rest.isEmpty && pathFollows then .error .emptyHost
    else .ok (userinfo front, rest)

/-- Reads an authority; what follows its port belongs to the path. A user or a port needs a
host. -/
def readAuthority (k : SchemeKind) (t : Text) (pathFollows : Bool) :
    Except UrlError (Authority × Text) := do
  let (user, rest) ← readUser t pathFollows
  let (hostText, portText) := cutHost false rest
  let h ← readHost k hostText
  if h.isNone && !(portText.isEmpty && user.isEmpty) then .error .emptyHost
  let (p, rest) ← readPort k portText
  return (⟨user, h, p⟩, rest)

/-- Cuts an address after the slashes that open its authority where the authority ends. -/
def cutAuthority (k : SchemeKind) (t : Text) : Text × Text :=
  (t.takeWhile (!k.endsAuthority ·), t.dropWhile (!k.endsAuthority ·))

/-- The path after an authority. A special scheme always has one. -/
def levels (k : SchemeKind) (t : Text) : UrlPath :=
  match t with
  | [] => .segments (if k.isSpecial then [[]] else [])
  | c :: r => .segments (Path.ofText k.isSlash (if k.isSlash c then r else c :: r))

/-- Reads what follows two slashes. -/
def afterSlashes (k : SchemeKind) (scheme t : Text) : Except UrlError Url := do
  let (front, rest) := cutAuthority k t
  let (a, left) ← readAuthority k front (!rest.isEmpty)
  let (path, tail) := cutTail k (left ++ rest)
  return ⟨scheme, some a, levels k path, tail.query, tail.fragment⟩

/-- Reads what follows a scheme that is no special one. -/
def afterOther (scheme t : Text) : Except UrlError Url :=
  match t with
  | '/' :: '/' :: r => afterSlashes .other scheme r
  | _ =>
    let (path, tail) := cutTail .other t
    let path := match path with
      | '/' :: r => .segments (Path.ofText (· = '/') r)
      | _ => .whole (Percent.encode Percent.controls path)
    .ok ⟨scheme, none, path, tail.query, tail.fragment⟩

/-- The host of a file and the path below it. No host is written for this machine, nor where the
path starts with a drive. -/
def fileHost (t : Text) : Except UrlError (Option Host × Text) := do
  let (front, rest) := cutAuthority .file t
  if Path.isDrive front then return (none, t)
  if front.isEmpty then return (none, rest)
  let h ← Host.parse front
  return (if h = .domain "localhost".toList then none else some h, rest)

/-- The path of a file, whether its first slash is written or not. -/
def filePath (t : Text) : List Text :=
  match t with
  | c :: r => Path.ofFileText (if SchemeKind.file.isSlash c then r else t)
  | [] => Path.ofFileText []

/-- Whether a path on a file system names a drive. -/
def hasDrive (segments : List Text) : Bool := segments.any Path.isDrive

/-- Reads what follows the scheme of a file. -/
def afterFile (scheme t : Text) : Except UrlError Url := do
  let (h, below) ←
    match t with
    | a :: b :: r =>
      if SchemeKind.file.isSlash a && SchemeKind.file.isSlash b then fileHost r
      else pure (none, t)
    | _ => pure (none, t)
  let (path, tail) := cutTail .file below
  let segments := filePath path
  let h := if hasDrive segments then none else h
  return ⟨scheme, some ⟨[], h, none⟩, .segments segments, tail.query, tail.fragment⟩

/-- Reads a web address. -/
def parse (t : Text) : Except UrlError Url :=
  match cutScheme? (clean t) with
  | none => .error .noScheme
  | some (scheme, rest) =>
    match schemeKind scheme with
    | .special p =>
      afterSlashes (.special p) scheme (rest.dropWhile (SchemeKind.isSlash (.special p)))
    | .file => afterFile scheme rest
    | .other => afterOther scheme rest

end Url
end PageTitle
