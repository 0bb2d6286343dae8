import PageTitle.Observer

/-!
# What an observer remembers

`fields_of_history`: the four things that an observer remembers of a page tell what occurred last, in
whatever order the page writes its title, notifications are handled, requests are made or given up
and answers of any kind come in. `Occurrence` is what an operation came to as seen from outside, and
`Records` what the observer's fields have to do with the occurrences so far; each operation keeps it
(`Records.step`).
-/

namespace PageTitle
namespace Observer

/-- What is done with an observer, or by its page. -/
inductive Operation where
  /-- The page writes its title. -/
  | set (t : Text)
  /-- The page changes in all but its title: its address, and what it makes of the titles it is given. -/
  | become (p : Page)
  | notice
  | request (fields : List Text)
  | receive (u : Option Update)
  | giveUp

/-- What an operation came to. -/
inductive Occurrence where
  | set
  | became
  | accepted (t : Text)
  | dropped
  | requested (r : Option FormatRequest)
  /-- An update was written, and the title that the page showed right after. -/
  | written (u : Update) (shown : Text)
  | unchanged
  | skipped
  | gaveUp
  deriving DecidableEq

/-- The observer after an operation. -/
def apply (o : Observer) : Operation → Observer
  | .set t => o.setTitle t
  | .become p => { o with page := { p with title := o.page.title } }
  | .notice => o.notice.2
  | .request fields => (o.request fields).2
  | .receive u => (o.receive u).2
  | .giveUp => o.giveUp

/-- What an operation comes to. -/
def occurrence (o : Observer) : Operation → Occurrence
  | .set _ => .set
  | .become _ => .became
  | .notice => if o.notice.1 then .accepted o.page.title else .dropped
  | .request fields => .requested (o.request fields).1
  | .receive u =>
    match u, o.receive u with
    | some u, (.written, o') => .written u o'.page.title
    | _, (.unchanged, _) => .unchanged
    | _, _ => .skipped
  | .giveUp => .gaveUp

/-- The observer after some operations. -/
def after (o : Observer) : List Operation → Observer
  | [] => o
  | x :: l => after (o.apply x) l

/-- What some operations come to, one after the other. -/
def history (o : Observer) : List Operation → List Occurrence
  | [] => []
  | x :: l => o.occurrence x :: history (o.apply x) l

namespace Occurrence

/-- Whether a title starts to wait for its request, or the wait ends. -/
def turns : Occurrence → Bool
  | accepted _ | requested _ | gaveUp => true
  | _ => false

/-- Whether a title is written, or a new one makes the last one that was written count no more. -/
def renews : Occurrence → Bool
  | accepted _ | written .. => true
  | _ => false

def isWritten : Occurrence → Bool
  | written .. => true
  | _ => false

/-- Whether the title of the page is written, by the page or the observer. -/
def entitles : Occurrence → Bool
  | set | written .. => true
  | _ => false

/-- Whether nothing was to be done. -/
def idle : Occurrence → Bool
  | dropped | requested none | unchanged | skipped => true
  | _ => false

end Occurrence

open Occurrence

/-- The last of some occurrences of a kind. -/
def latest (p : Occurrence → Bool) (h : List Occurrence) : Option Occurrence := (h.filter p).getLast?

theorem latest_concat (p : Occurrence → Bool) (h : List Occurrence) (x : Occurrence) :
    latest p (h ++ [x]) = if p x then some x else latest p h := by
  unfold latest
  rw [List.filter_append]
  cases hx : p x <;> simp [hx]

/-- What an observer remembers after some occurrences. -/
structure Records (h : List Occurrence) (o : Observer) : Prop where
  pending : ∀ t, o.pending = some t ↔ latest turns h = some (.accepted t)
  formatted : ∀ t, o.formatted = some t ↔
    ∃ u shown, latest renews h = some (.written u shown) ∧ u.title = t
  suffix : ∀ t, o.suffix = some t ↔
    ∃ u shown, latest isWritten h = some (.written u shown) ∧ u.suffix = some t
  shown : ∀ t, o.shown = some t ↔ ∃ u, latest isWritten h = some (.written u t)
  title : ∀ u t, latest entitles h = some (.written u t) → o.page.title = t ∧ o.shown = some t

variable {h : List Occurrence} {o o' : Observer} {x : Operation} {y : Occurrence} {t : Text}
  {fields fields' : List Text} {r : FormatRequest}

/-! ### Single operations -/

namespace Records

/-- Occurrences of none of the kinds change nothing that is remembered. -/
theorem quiet (hr : o.Records h) (hpending : o'.pending = o.pending)
    (hformatted : o'.formatted = o.formatted) (hsuffix : o'.suffix = o.suffix)
    (hshown : o'.shown = o.shown) (htitle : o'.page.title = o.page.title)
    (hy : y.turns = false ∧ y.renews = false ∧ y.isWritten = false ∧ y.entitles = false) :
    o'.Records (h ++ [y]) := by
  obtain ⟨hturns, hrenews, hwritten, hentitles⟩ := hy
  constructor
  · simpa [latest_concat, hturns, hpending] using hr.pending
  · simpa [latest_concat, hrenews, hformatted] using hr.formatted
  · simpa [latest_concat, hwritten, hsuffix] using hr.suffix
  · simpa [latest_concat, hwritten, hshown] using hr.shown
  · simpa [latest_concat, hentitles, htitle, hshown] using hr.title

theorem set (hr : o.Records h) (t : Text) : (o.setTitle t).Records (h ++ [.set]) := by
  constructor
  · simpa [latest_concat, turns, setTitle] using hr.pending
  · simpa [latest_concat, renews, setTitle] using hr.formatted
  · simpa [latest_concat, isWritten, setTitle] using hr.suffix
  · simpa [latest_concat, isWritten, setTitle] using hr.shown
  · simp [latest_concat, entitles]

theorem accept (hr : o.Records h) :
    Records (h ++ [.accepted o.page.title])
      { o with pending := some o.page.title, formatted := none } := by
  constructor
  · simp [latest_concat, turns]
  · simp [latest_concat, renews]
  · simpa [latest_concat, isWritten] using hr.suffix
  · simpa [latest_concat, isWritten] using hr.shown
  · simpa [latest_concat, entitles] using hr.title

/-- A title waits no more. -/
theorem forget (hr : o.Records h) (hy : y = .gaveUp ∨ ∃ r, y = .requested r) :
    Records (h ++ [y]) { o with pending := none } := by
  have hkinds : y.turns = true ∧ y.renews = false ∧ y.isWritten = false ∧ y.entitles = false ∧
      ∀ t, y ≠ .accepted t := by
    rcases hy with rfl | ⟨r, rfl⟩ <;> simp [turns, renews, isWritten, entitles]
  obtain ⟨hturns, hrenews, hwritten, hentitles, hne⟩ := hkinds
  constructor
  · simpa [latest_concat, hturns] using hne
  · simpa [latest_concat, hrenews] using hr.formatted
  · simpa [latest_concat, hwritten] using hr.suffix
  · simpa [latest_concat, hwritten] using hr.shown
  · simpa [latest_concat, hentitles] using hr.title

theorem write (hr : o.Records h) (u : Update) :
    Records (h ++ [.written u (o.page.writeTitle u.title).title])
      { o with
        page := o.page.writeTitle u.title
        formatted := some u.title
        suffix := u.suffix
        shown := some (o.page.writeTitle u.title).title } := by
  constructor
  · simpa [latest_concat, turns] using hr.pending
  · simp [latest_concat, renews]
  · simp [latest_concat, isWritten]
  · simp [latest_concat, isWritten, eq_comm]
  · simp [latest_concat, entitles]

theorem notice (hr : o.Records h) : (o.apply .notice).Records (h ++ [o.occurrence .notice]) := by
  unfold apply occurrence Observer.notice
  cases o.redundant with
  | true => exact hr.quiet rfl rfl rfl rfl rfl ⟨rfl, rfl, rfl, rfl⟩
  | false => exact hr.accept

theorem receive (hr : o.Records h) (u : Option Update) :
    (o.apply (.receive u)).Records (h ++ [o.occurrence (.receive u)]) := by
  cases u with
  | none => exact hr.quiet rfl rfl rfl rfl rfl ⟨rfl, rfl, rfl, rfl⟩
  | some u =>
    unfold apply occurrence Observer.receive
    by_cases hf : o.formatted = some u.title
    · simp only [hf, if_true]
      exact hr.quiet rfl rfl rfl rfl rfl ⟨rfl, rfl, rfl, rfl⟩
    · simp only [hf, if_false]
      exact hr.write u

/-- Each operation is recorded. -/
theorem step (hr : o.Records h) (x : Operation) :
    (o.apply x).Records (h ++ [o.occurrence x]) := by
  cases x with
  | set t => exact hr.set t
  | become p => exact hr.quiet rfl rfl rfl rfl rfl ⟨rfl, rfl, rfl, rfl⟩
  | notice => exact hr.notice
  | request fields => exact hr.forget (.inr ⟨_, rfl⟩)
  | receive u => exact hr.receive u
  | giveUp => exact hr.forget (.inl rfl)

theorem after (hr : o.Records h) (l : List Operation) :
    (o.after l).Records (h ++ o.history l) := by
  induction l generalizing o h with
  | nil => rwa [history, List.append_nil]
  | cons x l ih =>
    have := ih (hr.step x)
    rwa [List.append_assoc] at this

end Records

theorem records_start (p : Page) : Records [] { page := p } := by
  constructor <;> simp [latest]

/-! ### Requests -/

theorem request_eq_some_iff : (o.request fields).1 = some r ↔
    o.pending = some r.title ∧ r.previous = o.suffix ∧ r.url = o.page.href ∧
      ∀ f : LocationField, r.location.get f = if f.name ∈ fields then o.page.location.get f else [] := by
  have hlocation : r.location = o.page.location.copyFields fields ↔
      ∀ f : LocationField, r.location.get f =
        if f.name ∈ fields then o.page.location.get f else [] := by
    constructor
    · rintro h f
      rw [h, Location.get_copyFields]
    · intro h
      exact Location.ext_get fun f => by rw [h, Location.get_copyFields]
  rw [← hlocation]
  obtain ⟨location, url, title, previous⟩ := r
  unfold request
  cases o.pending with
  | none => simp
  | some t =>
    simp only [Option.map_some, Option.some.injEq, FormatRequest.mk.injEq]
    constructor
    · rintro ⟨rfl, rfl, rfl, rfl⟩
      exact ⟨rfl, rfl, rfl, rfl⟩
    · rintro ⟨rfl, rfl, rfl, rfl⟩
      exact ⟨rfl, rfl, rfl, rfl⟩

/-- A request depends on the fields of the location that the renderer names, and on no others. -/
theorem request_congr {q : Page} (hurl : q.href = o.page.href)
    (hnames : ∀ f : LocationField, f.name ∈ fields' ↔ f.name ∈ fields)
    (hfields : ∀ f : LocationField, f.name ∈ fields → q.location.get f = o.page.location.get f) :
    (request { o with page := q } fields').1 = (o.request fields).1 := by
  have hl : q.location.copyFields fields' = o.page.location.copyFields fields := by
    refine Location.ext_get fun f => ?_
    rw [Location.get_copyFields, Location.get_copyFields]
    by_cases hf : f.name ∈ fields
    · rw [if_pos hf, if_pos ((hnames f).mpr hf), hfields f hf]
    · rw [if_neg hf, if_neg fun h => hf ((hnames f).mp h)]
  unfold request
  rw [hl, hurl]

theorem apply_of_idle (hx : (o.occurrence x).idle = true) : o.apply x = o := by
  cases x with
  | set | become | giveUp => cases hx
  | notice =>
    unfold occurrence notice at hx
    unfold apply notice
    cases hr : o.redundant with
    | true => rfl
    | false => simp [hr, idle] at hx
  | request fields =>
    have hp : o.pending = none := by
      cases hp : o.pending with
      | none => rfl
      | some t => simp [occurrence, request, hp, idle] at hx
    simp only [apply, request, ← hp]
  | receive u =>
    cases u with
    | none => rfl
    | some u =>
      unfold occurrence receive at hx
      unfold apply receive
      by_cases hf : o.formatted = some u.title
      · simp only [hf, if_true]
      · simp [hf, idle] at hx

/-- Only writes change the title of the page. -/
theorem title_apply (hx : (o.occurrence x).entitles = false) :
    (o.apply x).page.title = o.page.title := by
  cases x with
  | set => cases hx
  | become | request | giveUp => rfl
  | notice =>
    unfold apply notice
    cases o.redundant <;> rfl
  | receive u =>
    cases u with
    | none => rfl
    | some u =>
      unfold occurrence receive at hx
      unfold apply receive
      by_cases hf : o.formatted = some u.title
      · simp only [hf, if_true]
      · simp [hf, entitles] at hx

/-! ### Histories -/

/-- An observer tells what occurred last. The title that waits is the one accepted last, if no request
was made or given up since. The last formatted title is the one written last, if no title was accepted
since; its suffix, and the title that the page showed right after, stay. A request has the title that
waits, this suffix, the address of the page, and those fields of its location that the renderer names.
A title that the observer wrote last is not accepted. Where nothing is to be done the observer stays as
it is, and without a write the page keeps its title. -/
theorem fields_of_history (p : Page) (l : List Operation) :
    let o := after { page := p } l
    let h := history { page := p } l
    (∀ t, o.pending = some t ↔ latest turns h = some (.accepted t)) ∧
    (∀ t, o.formatted = some t ↔
      ∃ u shown, latest renews h = some (.written u shown) ∧ u.title = t) ∧
    (∀ t, o.suffix = some t ↔
      ∃ u shown, latest isWritten h = some (.written u shown) ∧ u.suffix = some t) ∧
    (∀ t, o.shown = some t ↔ ∃ u, latest isWritten h = some (.written u t)) ∧
    (∀ fields r, (o.request fields).1 = some r ↔
      latest turns h = some (.accepted r.title) ∧ r.previous = o.suffix ∧ r.url = o.page.href ∧
        ∀ f : LocationField, r.location.get f =
          if f.name ∈ fields then o.page.location.get f else []) ∧
    (∀ (q : Page) (fields fields' : List Text), q.href = o.page.href →
      (∀ f : LocationField, f.name ∈ fields' ↔ f.name ∈ fields) →
      (∀ f : LocationField, f.name ∈ fields → q.location.get f = o.page.location.get f) →
        (request { o with page := q } fields').1 = (o.request fields).1) ∧
    (∀ u t, latest entitles h = some (.written u t) → o.notice = (false, o)) ∧
    ∀ x, ((o.occurrence x).idle = true → o.apply x = o) ∧
      ((o.occurrence x).entitles = false → (o.apply x).page.title = o.page.title) := by
  intro o h
  have hr : o.Records h := (records_start p).after l
  refine ⟨hr.pending, hr.formatted, hr.suffix, hr.shown, ?_, ?_, ?_, ?_⟩
  · intro fields r
    rw [request_eq_some_iff, hr.pending]
  · intro q fields fields' hurl hnames hfields
    exact request_congr hurl hnames hfields
  · intro u t ht
    obtain ⟨htitle, hshown⟩ := hr.title u t ht
    simp [notice, redundant, htitle, hshown]
  · exact fun x => ⟨apply_of_idle, title_apply⟩

/-- A late answer is written while the next title waits. -/
theorem fields_of_history_late :
    let p := Page.load ⟨"data".toList, none, .whole ['x'], none, none⟩ ['A']
    let l : List Operation := [.notice, .request [], .set ['B'], .notice,
      .receive (some ⟨"A x ".toList, some ['x']⟩)]
    let o := after { page := p } l
    o.pending = some ['B'] ∧ o.formatted = some "A x ".toList ∧ o.suffix = some ['x'] ∧
      o.shown = some "A x".toList ∧ o.notice = (false, o) := by
  intro p l o
  obtain ⟨hpending, hformatted, hsuffix, hshown, -, -, hnotice, -⟩ := fields_of_history p l
  refine ⟨(hpending _).mpr (by decide), (hformatted _).mpr ?_, (hsuffix _).mpr ?_,
    (hshown _).mpr ?_, hnotice ⟨"A x ".toList, some ['x']⟩ "A x".toList (by decide)⟩
  · exact ⟨⟨"A x ".toList, some ['x']⟩, "A x".toList, by decide, rfl⟩
  · exact ⟨⟨"A x ".toList, some ['x']⟩, "A x".toList, by decide, rfl⟩
  · exact ⟨⟨"A x ".toList, some ['x']⟩, by decide⟩

end Observer
end PageTitle
