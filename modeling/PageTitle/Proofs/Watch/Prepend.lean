import PageTitle.Command.Run
import PageTitle.Proofs.Session.Round
import PageTitle.Proofs.Update.Suffix

/-!
# Watching a page that prepends

`watch_prepend_output`: with a format that tracks its suffix, the titles that `watch` prints are the
renders of the raw text that the lines build up, as if no title had ever been rendered. For this the
session of each line is one round (`observer_states`), and a round after a prefix leaves an
observer whose page shows the render of the prefix before the raw title (`Observer.Shows.prepend`).
-/

namespace PageTitle

/-- What renders the titles of a page. -/
def Options.template (options : Options) (u : Url) : Template := ⟨options.format, u.location⟩

namespace Observer

/-- The observer after the page wrote a line, as its title or before the title that it shows, and
the round that follows. -/
def afterLine (fields : List Text) (render : FormatRequest → Option Update) (prepend : Bool)
    (o : Observer) (line : Text) : Observer :=
  ((o.setTitle (if prepend then line ++ o.page.title else line)).cycle fields render).2

/-- An observer at rest, of a page that trims and shows the render of the raw title `b`. -/
structure Shows (w : Template) (u : Url) (b : Text) (o : Observer) : Prop where
  url : o.page.url = u
  own : o.page.own = Text.trim
  kept : o.page.kept = Text.trim
  pending : o.pending = none
  shown : o.shown = some o.page.title
  suffix : o.suffix = some w.suffix
  title : o.page.title = w.render b
  trimmed : b.trimStart = b

section
variable {options : Options} {u : Url} {fields : List Text} {o : Observer} {b : Text}
variable (hf : Format.tracksSuffix options.format = true) (ha : options.accepts u.href = true)
  (hall : ∀ f : LocationField, f.name ∈ fields)
include hf ha hall

/-- The round of a new title. -/
theorem cycle_of_accepts (hr : o.redundant = false) (hu : o.page.url = u) :
    let w := options.template u
    let t := w.render (Update.strip o.suffix o.page.title)
    (o.cycle fields (Service.format options)).2 =
      { o with
        page := o.page.writeTitle t
        pending := none
        formatted := some t
        suffix := some w.suffix
        shown := some (o.page.writeTitle t).title } := by
  intro w t
  subst hu
  have hm : Service.format options ⟨o.page.location, o.page.href, o.page.title, o.suffix⟩ =
      some ⟨t, some w.suffix⟩ := by
    rw [Service.format, Page.href, if_pos ha]
    exact congrArg some (Template.make_eq (w := w) hf ..)
  rw [cycle_of_not_redundant hr, Location.copyFields_of_all _ hall, hm]
  simp [receive]

theorem shows_cycle (hr : o.redundant = false) (hu : o.page.url = u) (hown : o.page.own = Text.trim)
    (hkept : o.page.kept = Text.trim) (hb : b.trimStart = b)
    (ht : (options.template u).render (Update.strip o.suffix o.page.title) =
      (options.template u).render b) :
    Shows (options.template u) u b (o.cycle fields (Service.format options)).2 := by
  rw [cycle_of_accepts hf ha hall hr hu, ht]
  exact
  { url := hu
    own := hown
    kept := hkept
    pending := rfl
    shown := rfl
    suffix := rfl
    title := by
      rw [Page.writeTitle, hkept]
      exact Text.trim_normalize _
    trimmed := hb }

theorem shows_load (title : Text) : Shows (options.template u) u title.trim
    (cycle { page := Page.load u title } fields (Service.format options)).2 :=
  shows_cycle hf ha hall (by simp [redundant]) rfl rfl rfl (Text.trimStart_trim title) rfl

theorem Shows.prepend (h : Shows (options.template u) u b o) (x : Text) :
    Shows (options.template u) u (x ++ b).trimStart
      (o.afterLine fields (Service.format options) true x) := by
  have hc : Text.Carries (options.template u).rest b o.page.title := by
    rw [h.title]
    exact Template.carries_render hf b
  have hp : (o.setTitle (x ++ o.page.title)).page.title = (x ++ o.page.title).trim := by
    rw [setTitle, Page.setTitle, h.own]
  have ht : (options.template u).render (Update.strip o.suffix (x ++ o.page.title).trim) =
      (options.template u).render (x ++ b).trimStart := by
    have hx := hc.prepend x
    rw [h.trimmed] at hx
    rw [h.suffix, Template.render_strip hf hx, Template.render_trimStart hf]
  unfold afterLine
  rw [if_pos rfl]
  cases hr : (o.setTitle (x ++ o.page.title)).redundant with
  | false =>
    exact shows_cycle hf ha hall hr h.url h.own h.kept (Text.trimStart_trimStart _)
      (by rw [hp]; exact ht)
  | true =>
    -- the prefix leaves the title as it was, and then both raw titles have the same render
    have he : o.page.title = (x ++ o.page.title).trim := by
      rw [redundant, hp] at hr
      simpa [setTitle, h.pending, h.shown] using hr
    rw [cycle_of_redundant hr]
    exact
    { url := h.url
      own := h.own
      kept := h.kept
      pending := h.pending
      shown := by rw [hp, ← he]; exact h.shown
      suffix := h.suffix
      title := by
        rw [hp, ← ht, ← he, h.suffix, Template.render_strip hf hc]
        exact h.title
      trimmed := Text.trimStart_trimStart _ }

theorem Shows.titles (h : Shows (options.template u) u b o) (l : List Text) :
    (l.scanl (afterLine fields (Service.format options) true) o).map (·.page.title) =
      (l.scanl (fun m x => (x ++ m).trimStart) b).map (options.template u).render := by
  induction l generalizing o b with
  | nil => simp [h.title]
  | cons x l ih =>
    rw [List.scanl_cons, List.scanl_cons, List.map_cons, List.map_cons, h.title,
      ih (h.prepend hf ha hall x)]

end

end Observer

namespace Watch
variable {store : Store} {o : Options} {s : State} {fields : List Text}

/-- A session that waits for the next line, with options. -/
structure Rests (store : Store) (o : Options) (s : Session) : Prop where
  queued : s.queued = 0
  calls : s.calls = []
  events : s.events = []
  isOpen : s.isOpen = true
  options : store.load s.files = .ok o

/-- A notification makes one round and leaves a session that waits for the next line. -/
theorem run_notified {s : Session} (hq : s.queued = 1) (hc : s.calls = []) (he : s.events = [])
    (hi : s.isOpen = true) (ho : store.load s.files = .ok o) :
    Rests store o (s.run (setting store)) ∧ (s.run (setting store)).observer =
      (s.observer.cycle (LocationField.all.map LocationField.name) (Service.format o)).2 := by
  obtain ⟨hq', hc', -⟩ := Session.next?_eq_none_iff.mp (Session.next?_run (setting store) s)
  obtain ⟨he', hf', hi'⟩ := Session.run_of_no_events (setting store) he
  exact ⟨⟨hq', hc', he', hi'.trans hi, (congrArg store.load hf').trans ho⟩,
    Session.run_observer_eq_cycle (fun _ => rfl) (fun _ => rfl) hq hc he ho⟩

theorem run_first {files : FileTree} (p : Page) (ho : store.load files = .ok o) :
    Rests store o (first (setting store) { page := p } files).session ∧
      (first (setting store) { page := p } files).session.observer =
        (Observer.cycle { page := p } (LocationField.all.map LocationField.name)
          (Service.format o)).2 :=
  run_notified (s := Session.start { page := p } files [] true) rfl rfl rfl rfl ho

theorem run_next (prepend : Bool) (h : Rests store o s.session) (line : Text) :
    Rests store o (next (setting store) prepend s line).session ∧
      (next (setting store) prepend s line).session.observer =
        s.session.observer.afterLine (LocationField.all.map LocationField.name) (Service.format o)
          prepend line := by
  obtain ⟨hq, hc, he, hi, ho⟩ := h
  have hn (t : Text) := run_notified (s := Session.setTitle (setting store) s.session t)
    (by simp [Session.setTitle, Session.notify, hq, hi, setting])
    (by simp [Session.setTitle, hc]) (by simp [Session.setTitle, he])
    (by simp [Session.setTitle, hi]) (by simpa [Session.setTitle] using ho)
  have hs (t : Text) : (Session.setTitle (setting store) s.session t).observer =
      s.session.observer.setTitle t := Session.notify_observer ..
  unfold next settle Observer.afterLine
  cases prepend with
  | true => rw [if_pos rfl, if_pos rfl, ← hs]; exact hn _
  | false =>
    rw [if_neg Bool.false_ne_true, if_neg Bool.false_ne_true, ← hs]
    exact hn line

theorem observer_states (prepend : Bool) (h : Rests store o s.session) (l : List Text) :
    (states (setting store) prepend s l).map (·.session.observer) =
      l.scanl (Observer.afterLine (LocationField.all.map LocationField.name) (Service.format o)
        prepend) s.session.observer := by
  induction l generalizing s with
  | nil => rfl
  | cons x l ih =>
    obtain ⟨hr, ho⟩ := run_next prepend h x
    rw [states, List.map_cons, List.scanl_cons, ih hr, ho]

end Watch

/-- Where the options select the page and their format tracks its suffix, `watch` with prefixes prints
the renders of the first title with all prefixes so far, and so does an observer that makes one round
at the start and one after each prefix. -/
theorem watch_prepend_output {store : Store} {files : FileTree} {o : Options} {url : Text} {u : Url}
    (hload : store.load files = .ok o) (htracks : Format.tracksSuffix o.format = true)
    (hparse : Url.parse url = .ok u) (haccepts : o.accepts u.href = true) (title input : Text) :
    let fields := LocationField.all.map LocationField.name
    let render := Service.format o
    let titles := ((Text.lines input).scanl (fun m x => Text.trimStart (x ++ m)) title.trim).map
      fun m => Format.render o.format ⟨u.location, m⟩
    (Command.run (.watch url title true) store files input).error = none ∧
      (Command.run (.watch url title true) store files input).output = Command.unlines titles ∧
      ((Text.lines input).scanl (Observer.afterLine fields render true)
        (Observer.cycle { page := Page.load u title } fields render).2).map (·.page.title) =
          titles := by
  intro fields render titles
  have hall (f : LocationField) : f.name ∈ fields := List.mem_map_of_mem f.mem_all
  have ht := (Observer.shows_load htracks haccepts hall title).titles htracks haccepts hall
    (Text.lines input)
  obtain ⟨hr, ho⟩ := Watch.run_first (Page.load u title) hload
  have hs := congrArg (List.map fun o : Observer => o.page.title)
    (Watch.observer_states true hr (Text.lines input))
  rw [List.map_map, ho] at hs
  have hw : Command.run (.watch url title true) store files input =
      Command.runWatch store files input url title true := rfl
  rw [hw, Command.runWatch, hparse]
  exact ⟨rfl, congrArg Command.unlines (hs.trans ht), ht⟩

set_option maxRecDepth 100000 in
/-- A blank line between two prefixes changes nothing. -/
theorem watch_prepend_output_blank :
    let store : Store := ⟨⟨['o'], [['o']], false⟩⟩
    let o : Options := {}
    let u : Url := ⟨"data".toList, none, .whole ['x'], none, none⟩
    store.load {} = .ok o ∧ Format.tracksSuffix o.format = true ∧
      Url.parse "data:x".toList = .ok u ∧ o.accepts u.href = true ∧
      (Command.run (.watch "data:x".toList "A".toList true) store {} "1 \n \n2 \n".toList).output =
        Command.unlines ["A - data:///x".toList, "1 A - data:///x".toList,
          "1 A - data:///x".toList, "2 1 A - data:///x".toList] := by
  intro store o u
  have hl : store.load {} = .ok o := rfl
  have ht : Format.tracksSuffix o.format = true := by decide +kernel
  have hp : Url.parse "data:x".toList = .ok u := by decide +kernel
  have ha : o.accepts u.href = true := by decide +kernel
  refine ⟨hl, ht, hp, ha, ?_⟩
  rw [(watch_prepend_output hl ht hp ha "A".toList "1 \n \n2 \n".toList).2.1]
  decide +kernel

end PageTitle
