import PageTitle.Proofs.Format.Tracking
import PageTitle.Proofs.Url.Written

/-!
# Addresses as titles

The fields of a location put together again: `render_address` says what a format that lists all of them
makes of a page's location. It is the address as it is written, less the user and the marks of a query or
a fragment that are empty.
-/

namespace PageTitle

namespace Format

/-- The format that lists all fields of a location with the marks between them. -/
def address : Text :=
  "\x7bprotocol\x7d://\x7bhostnameascii\x7d\x7bport\x7d/\x7bpath\x7d\x7bargs\x7d\x7bhash\x7d".toList

theorem substitute_address (env : Environment) : substitute env address =
    Tag.protocol.value env ++ ("://".toList ++ (Tag.hostnameAscii.value env ++
      (Tag.port.value env ++ ('/' :: (Tag.path.value env ++
        (Tag.args.value env ++ Tag.hash.value env)))))) := by
  have hparts : address = Tag.protocol.placeholder ++ ("://".toList ++
      (Tag.hostnameAscii.placeholder ++ (Tag.port.placeholder ++ (['/'] ++
        (Tag.path.placeholder ++ (Tag.args.placeholder ++ (Tag.hash.placeholder ++ []))))))) := rfl
  have hempty : substitute env [] = [] := by rw [substitute]
  rw [hparts, substitute_placeholder, substitute_append_of_notMem env (by decide),
    substitute_placeholder, substitute_placeholder, substitute_append_of_notMem env (by decide),
    substitute_placeholder, substitute_placeholder, substitute_placeholder, hempty, List.append_nil]
  rfl

end Format

/-- The user of an authority with the mark that parts it from the host. -/
def Authority.userText (a : Authority) : Text :=
  if a.userinfo.isEmpty then [] else a.userinfo ++ ['@']

/-- The host and the port of an authority. -/
def Authority.hostPort (a : Authority) : Text :=
  a.hostText ++ (if a.port.isSome then ':' :: a.portText else [])

namespace Url
open Text (Visible)

/-- The mark of a part that an address has, but with nothing in it. -/
def emptyMark (mark : Char) (part : Option Text) : Text := if part = some [] then [mark] else []

theorem marked_eq (mark : Char) (part : Option Text) :
    marked mark part = emptyMark mark part ++ shown mark part := by
  cases part with
  | none => rfl
  | some t => cases t <;> rfl

theorem visible_shown {mark : Char} (hmark : Visible [mark]) {part : Option Text}
    (h : ∀ t, part = some t → Visible t) : Visible (shown mark part) := by
  cases part with
  | none => exact Text.visible_nil
  | some t =>
    cases t with
    | nil => exact Text.visible_nil
    | cons c t => exact Text.visible_append.mpr ⟨hmark, h _ rfl⟩

variable {u : Url} {a : Authority}

/-- The tag of the port writes the port as the address does. -/
theorem value_port (ha : u.authority = some a) (title : Text) :
    Tag.port.value ⟨u.location, title⟩ = if a.port.isSome then ':' :: a.portText else [] := by
  have hp : u.location.port = a.portText := by simp [location, ha]
  rw [Tag.value, hp, Authority.portText]
  cases a.port with
  | none => rfl
  | some n =>
    have hn : (Text.decimal n).isEmpty = false := by
      simp [Text.decimal, Nat.toDigits_ne_nil]
    simp [hn]

/-- With the slash before it, the tag of the path writes a path that starts with one. -/
theorem value_path (hpath : u.path.toText.head? = some '/') (title : Text) :
    '/' :: Tag.path.value ⟨u.location, title⟩ = u.path.toText := by
  obtain ⟨r, hr⟩ := List.head?_eq_some_iff.mp hpath
  show '/' :: (Text.dropFront? ['/'] u.path.toText).getD u.path.toText = u.path.toText
  rw [hr]
  rfl

theorem Written.value_protocol (h : Written u) (title : Text) :
    Tag.protocol.value ⟨u.location, title⟩ = u.scheme := by
  show (u.scheme ++ [':']).erase ':' = u.scheme
  rw [List.erase_append_right _ h.colon]
  simp

theorem Written.visible_hostPort (h : Written u) (ha : u.authority = some a) : Visible a.hostPort := by
  refine Text.visible_append.mpr ⟨?_, ?_⟩
  · rw [Authority.hostText]
    cases hh : a.host with
    | none => exact Text.visible_nil
    | some x => exact h.host a ha x hh
  · rw [Authority.portText]
    cases a.port with
    | none => exact Text.visible_nil
    | some n =>
      exact Text.visible_cons.mpr ⟨by decide, Text.visible_decimal n⟩

/-- The title that lists all fields of a page's location is the page's address without its user and
without the marks of what is empty in it. -/
theorem render_address {url : Text} (hparse : parse url = .ok u) (ha : u.authority = some a)
    (hpath : u.path.toText.head? = some '/') (title : Text) :
    u.href = u.scheme ++ "://".toList ++ a.userText ++ a.hostPort ++ u.path.toText ++
        emptyMark '?' u.query ++ shown '?' u.query ++
        emptyMark '#' u.fragment ++ shown '#' u.fragment ∧
      Format.render Format.address ⟨u.location, title⟩ =
        u.scheme ++ "://".toList ++ a.hostPort ++ u.path.toText ++
          shown '?' u.query ++ shown '#' u.fragment := by
  have hw := written_of_parse hparse
  constructor
  · rw [href, beforePath, ha, marked_eq, marked_eq]
    simp [Authority.toText, Authority.userText, Authority.hostPort]
  · have hhost : Tag.hostnameAscii.value ⟨u.location, title⟩ = a.hostText := by
      simp [Tag.value, location, ha]
    have hargs : Tag.args.value ⟨u.location, title⟩ = shown '?' u.query := rfl
    have hhash : Tag.hash.value ⟨u.location, title⟩ = shown '#' u.fragment := rfl
    have hsub : Format.substitute ⟨u.location, title⟩ Format.address =
        u.scheme ++ "://".toList ++ a.hostPort ++ u.path.toText ++
          shown '?' u.query ++ shown '#' u.fragment := by
      rw [Format.substitute_address, hw.value_protocol, hhost, value_port ha, ← List.cons_append,
        value_path hpath, hargs, hhash]
      simp [Authority.hostPort]
    have hmark : Visible ['?'] ∧ Visible ['#'] ∧ Visible "://".toList := by decide
    rw [Format.render, hsub]
    refine Text.normalize_of_visible ?_
    simp only [Text.visible_append]
    exact ⟨⟨⟨⟨⟨hw.scheme, hmark.2.2⟩, hw.visible_hostPort ha⟩, hw.path a ha⟩,
      visible_shown hmark.1 hw.query⟩, visible_shown hmark.2.1 hw.fragment⟩

/-- A user, an empty level before the first name, a blank, an empty query and a fragment. -/
theorem render_address_user :
    let url := "HTTP://u:p@[::1]:8080//a b?#c d".toList
    let u : Url := ⟨"http".toList, some ⟨"u:p".toList, some (.ipv6 [0, 0, 0, 0, 0, 0, 0, 1]), some 8080⟩,
      .segments [[], "a%20b".toList], some [], some "c%20d".toList⟩
    parse url = .ok u ∧ u.path.toText.head? = some '/' ∧
      u.href = "http://u:p@[::1]:8080//a%20b?#c%20d".toList ∧
      Format.render Format.address ⟨u.location, ['A']⟩ = "http://[::1]:8080//a%20b#c%20d".toList := by
  intro url u
  have hparse : parse url = .ok u := rfl
  have hpath : u.path.toText.head? = some '/' := by decide +kernel
  obtain ⟨hhref, hrender⟩ := render_address hparse rfl hpath ['A']
  refine ⟨hparse, hpath, hhref.trans ?_, hrender.trans ?_⟩
  · decide +kernel
  · decide +kernel

end Url
end PageTitle
