import PageTitle.Proofs.Session.Moves
import PageTitle.Proofs.Update.Suffix

/-!
# One suffix in all sessions

`written_authored`: with a format that tracks its suffix, an observer writes renders of what the page
itself wrote (`Origin.Authored`) and of nothing that holds a suffix of an earlier write, whatever
calls overlap. The raw title of a request is taken when the title is noticed, and the suffix to strip
when the request is made, with writes between them; but a title with a suffix appears only after a
write (`Origin.Traced`), and from the first write on each request has the suffix to strip.
-/

namespace PageTitle

/-- Whether an action leaves the options alone and writes nothing behind the title. -/
def Action.prefixes : Action → Bool
  | .append _ | .save _ | .overwrite _ => false
  | .set _ | .prepend _ | .notify | .look => true

/-- Where titles come from: what renders them, the first title of a page and what the page does. -/
structure Origin extends Template where
  first : Text
  actions : List Action

namespace Origin

/-- The texts that a page writes itself. -/
inductive Authored (w : Origin) : Text → Prop
  | first : Authored w w.first.trim
  | set {t : Text} (h : .set t ∈ w.actions) : Authored w t.trim
  | trim {b : Text} (h : Authored w b) : Authored w b.trim
  | prepend {b x : Text} (hx : .prepend x ∈ w.actions) (h : Authored w b) :
      Authored w (x ++ b.trimStart)
  | strip {b : Text} (hs : w.suffix ≠ []) (h : Authored w (b ++ w.suffix)) : Authored w b

/-- A title is authored or, once the last write had a suffix, carries an authored one. -/
def Traced (w : Origin) (last : Option Text) (t : Text) : Prop :=
  w.Authored t ∨ last = some w.suffix ∧ ∃ b, w.Authored b ∧ Text.Carries w.rest b t

/-- The suffix of the last write, if there was one. -/
def Last (w : Origin) (last : Option Text) : Prop := last = none ∨ last = some w.suffix

variable {w : Origin} {b t x : Text} {last : Option Text}

theorem Authored.stripped (h : w.Authored t) : w.Authored (Update.strip (some w.suffix) t) := by
  simp only [Update.strip]
  split
  · exact h
  · next hs =>
    cases hd : Text.dropBack? w.suffix t with
    | none => exact h
    | some b =>
      rw [Text.dropBack?_eq_some_iff.mp hd] at h
      exact .strip (fun h => hs (by rw [h]; rfl)) h

namespace Traced

/-- After a write, a title is traced as it was before. -/
theorem written (h : w.Traced last t) : w.Traced (some w.suffix) t :=
  h.imp_right fun h => ⟨rfl, h.2⟩

/-- Without the suffix of the last write, a traced title renders as an authored one does. -/
theorem render_strip (hf : Format.tracksSuffix w.format = true) (hl : w.Last last)
    (h : w.Traced last t) :
    ∃ b, w.Authored b ∧ w.render (Update.strip last t) = w.render b := by
  rcases h with ha | ⟨rfl, b, hb, hc⟩
  · -- an authored title may end in the suffix by chance, and is authored without it too
    rcases hl with rfl | rfl
    · exact ⟨t, ha, rfl⟩
    · exact ⟨_, ha.stripped, rfl⟩
  · exact ⟨b, hb, Template.render_strip hf hc⟩

/-- What a write makes of the page's title. -/
theorem of_render (hf : Format.tracksSuffix w.format = true) (hb : w.Authored b) :
    w.Traced (some w.suffix) (w.render b).trim := by
  refine .inr ⟨rfl, b, hb, ?_⟩
  rw [Template.render, Format.render, Text.trim_normalize]
  exact Template.carries_render hf b

/-- What a prefix makes of the page's title. -/
theorem prepend (hx : .prepend x ∈ w.actions) (ht : t.trimStart = t) (h : w.Traced last t) :
    w.Traced last (x ++ t).trim := by
  rcases h with ha | ⟨hl, b, hb, hc⟩
  · refine .inl (.trim ?_)
    have := ha.prepend hx
    rwa [ht] at this
  · exact .inr ⟨hl, _, hb.prepend hx, hc.prepend x⟩

end Traced
end Origin

/-! ### Observers -/

/-- An observer of a page that trims, all of whose titles are traced. -/
structure Observer.Traced (w : Origin) (o : Observer) : Prop where
  location : o.page.location = w.location
  own : o.page.own = Text.trim
  kept : o.page.kept = Text.trim
  trimmed : o.page.title.trimStart = o.page.title
  last : w.Last o.suffix
  title : w.Traced o.suffix o.page.title
  pending : ∀ t, o.pending = some t → w.Traced o.suffix t

namespace Observer.Traced
variable {w : Origin} {o : Observer} {t x : Text}

theorem setTitle (h : o.Traced w) (ht : w.Traced o.suffix t.trim) : (o.setTitle t).Traced w where
  location := h.location
  own := h.own
  kept := h.kept
  trimmed := by
    simp only [Observer.setTitle, Page.setTitle, h.own]
    exact Text.trimStart_trim t
  last := h.last
  title := by
    simp only [Observer.setTitle, Page.setTitle, h.own]
    exact ht
  pending := h.pending

theorem prepend (h : o.Traced w) (hx : .prepend x ∈ w.actions) :
    (o.setTitle (x ++ o.page.title)).Traced w := h.setTitle (h.title.prepend hx h.trimmed)

theorem accept (h : o.Traced w) :
    Traced w { o with pending := some o.page.title, formatted := none } :=
  { h with pending := fun _ ht => Option.some.inj ht ▸ h.title }

theorem forget (h : o.Traced w) : Traced w { o with pending := none } :=
  { h with pending := nofun }

theorem write {b : Text} (h : o.Traced w) (hf : Format.tracksSuffix w.format = true)
    (hb : w.Authored b) (formatted shown : Option Text) :
    Traced w { o with
      page := o.page.writeTitle (w.render b)
      formatted
      suffix := some w.suffix
      shown } where
  location := h.location
  own := h.own
  kept := h.kept
  trimmed := by
    simp only [Page.writeTitle, h.kept]
    exact Text.trimStart_trim _
  last := .inr rfl
  title := by
    simp only [Page.writeTitle, h.kept]
    exact .of_render hf hb
  pending t ht := (h.pending t ht).written

end Observer.Traced

/-! ### Sessions -/

/-- A call for what the renderer needs brings all fields, and a request is for the render of an
authored title. -/
def Call.Traced (w : Origin) (c : Call) : Prop := match c.query with
  | .constants => ∀ f : LocationField, f.name ∈ c.fields
  | .format r => r.location = w.location ∧
      ∃ b, w.Authored b ∧ w.render (Update.strip r.previous r.title) = w.render b

/-- A title that is written is the render of an authored one. -/
def Sign.Traced (w : Origin) : Sign → Prop
  | .write t _ => ∃ b, w.Authored b ∧ t = w.render b
  | .constants .. | .format .. => True

namespace Session

/-- A session with fixed options, all of whose titles are traced. -/
structure Traced (g : Setting) (o : Options) (w : Origin) (s : Session) : Prop where
  options : g.store.load s.files = .ok o
  actions : ∀ e ∈ s.events, ∀ a ∈ e.actions, a ∈ w.actions ∧ a.prefixes = true
  observer : s.observer.Traced w
  calls : ∀ c ∈ s.calls, c.Traced w
  signs : ∀ x ∈ s.signs, x.Traced w

namespace Traced
variable {g : Setting} {o : Options} {w : Origin} {s s' : Session} {m : Move} {a : Action}

theorem notify (h : s.Traced g o w) (k : Nat) : (s.notify k).Traced g o w where
  options := by rw [notify_files]; exact h.options
  actions := by rw [notify_events]; exact h.actions
  observer := by rw [notify_observer]; exact h.observer
  calls := by rw [notify_calls]; exact h.calls
  signs := by rw [notify_signs]; exact h.signs

theorem sign (h : s.Traced g o w) {x : Sign} (hx : x.Traced w) :
    Traced g o w { s with signs := s.signs ++ [x] } :=
  { h with signs := List.forall_mem_append.mpr ⟨h.signs, List.forall_mem_singleton.mpr hx⟩ }

theorem setTitle (h : s.Traced g o w) {t : Text} (ht : (s.observer.setTitle t).Traced w) :
    (setTitle g s t).Traced g o w :=
  notify (s := { s with observer := s.observer.setTitle t }) { h with observer := ht } g.capacity

theorem act (h : s.Traced g o w) (ha : a ∈ w.actions) (hp : a.prefixes = true) :
    (act g s a).Traced g o w := by
  cases a with
  | set t => exact h.setTitle (h.observer.setTitle (.inl (.set ha)))
  | prepend t => exact h.setTitle (h.observer.prepend ha)
  | notify => exact h.notify _
  | look => exact { h with }
  | append t | save o | overwrite t => cases hp

theorem callConstants (h : s.Traced g o w)
    (hg : ∀ f : LocationField, f.name ∈ (g.constantsPlan s.constantsCalls).fields) :
    (callConstants g s).Traced g o w :=
  { h with
    calls := List.forall_mem_append.mpr ⟨h.calls, List.forall_mem_singleton.mpr hg⟩
    signs := List.forall_mem_append.mpr ⟨h.signs, List.forall_mem_singleton.mpr trivial⟩ }

theorem callFormat (h : s.Traced g o w) {r : FormatRequest} (hl : r.location = w.location)
    (hr : ∃ b, w.Authored b ∧ w.render (Update.strip r.previous r.title) = w.render b) :
    (callFormat g s r).Traced g o w :=
  { h with
    calls := List.forall_mem_append.mpr ⟨h.calls, List.forall_mem_singleton.mpr ⟨hl, hr⟩⟩
    signs := List.forall_mem_append.mpr ⟨h.signs, List.forall_mem_singleton.mpr trivial⟩ }

/-- A call ends, and the observer is another. -/
theorem finish (h : s.Traced g o w) (c : Call) {o' : Observer} (ho : o'.Traced w) :
    Traced g o w { s.withoutCall c with observer := o' } :=
  { h with observer := ho, calls := fun d hd => h.calls d (List.mem_of_mem_erase hd) }

theorem step (hw : w.format = o.format) (hf : Format.tracksSuffix w.format = true)
    (hg : ∀ n (f : LocationField), f.name ∈ (g.constantsPlan n).fields) (h : s.Traced g o w)
    (he : Effect g s m s') : s'.Traced g o w := by
  cases he with
  | drop => exact { h with }
  | accept =>
    have h' : Traced g o w { s.dequeue with
        observer := { s.observer with pending := some s.observer.page.title, formatted := none } } :=
      { h with observer := h.observer.accept }
    exact h'.callConstants (hg _)
  | @ask c t hq hc hk he hp =>
    have hfields := h.calls c hc
    rw [Call.Traced, hk] at hfields
    refine (h.finish c h.observer.forget).callFormat ?_ ?_
    · exact (Location.copyFields_of_all _ hfields).trans h.observer.location
    · exact (h.observer.pending t hp).render_strip hf h.observer.last
  | ignore | die | skip | keep => exact h.finish _ h.observer
  | giveUp => exact h.finish _ h.observer.forget
  | @write c r u hq hc hk hu =>
    obtain ⟨-, o', ho, -, rfl⟩ := (update?_eq_some_iff hk).mp hu
    cases h.options.symm.trans ho
    have hr := h.calls c hc
    rw [Call.Traced, hk] at hr
    obtain ⟨hl, b, hb, ht⟩ := hr
    have hm : Update.make o.format ⟨r.location, r.title⟩ r.previous =
        ⟨w.render b, some w.suffix⟩ := by
      rw [← hw, hl, Template.make_eq hf, ht]
    rw [hm]
    have h' := h.finish c (h.observer.write hf hb (some (w.render b))
      (some (s.observer.page.writeTitle (w.render b)).title))
    exact (h'.sign (x := .write (w.render b) (max s.time c.due)) ⟨b, hb, rfl⟩).notify g.capacity
  | @event e l hq he =>
    have hl : ∀ a ∈ e.actions, a ∈ w.actions ∧ a.prefixes = true :=
      h.actions e (by rw [he]; exact List.mem_cons_self)
    have h' : (s.withoutEvent e).Traced g o w :=
      { h with actions := fun e' he' => h.actions e' (List.mem_of_mem_tail he') }
    have := actAll_induction (P := Traced g o w) (g := g) h' fun s a ha hs =>
      hs.act (hl a ha).1 (hl a ha).2
    exact { this with }

end Traced

/-- A page with a first title, whose observer knows of nothing yet. -/
theorem traced_load {w : Origin} {url : Url} {title : Text} (hu : url.location = w.location)
    (ht : title = w.first) : Observer.Traced w { page := Page.load url title } where
  location := hu
  own := rfl
  kept := rfl
  trimmed := Text.trimStart_trim title
  last := .inl rfl
  title := .inl (ht ▸ .first)
  pending := nofun

/-- With fixed options whose format tracks its suffix, all that an observer of a page writes is the
render of a text of the page's own. -/
theorem written_authored {g : Setting} {o : Options} {files : FileTree} {events : List Event}
    (hload : g.store.load files = .ok o) (htracks : Format.tracksSuffix o.format = true)
    (hfields : ∀ n (f : LocationField), f.name ∈ (g.constantsPlan n).fields)
    (hactions : ∀ e ∈ events, ∀ a ∈ e.actions, a.prefixes = true) (url : Url) (title : Text) :
    let w : Origin := ⟨⟨o.format, url.location⟩, title, events.flatMap Event.actions⟩
    ∀ t n, Sign.write t n ∈ ((ofScript { page := Page.load url title } files events).run g).signs →
      ∃ b, w.Authored b ∧ t = w.render b := by
  intro w
  have h₀ : (ofScript { page := Page.load url title } files events).Traced g o w :=
    { options := hload
      actions := fun e he a ha => ⟨List.mem_flatMap.mpr ⟨e, he, ha⟩, hactions e he a ha⟩
      observer := traced_load rfl rfl
      calls := nofun
      signs := nofun }
  have h := (reachable_run g _).invariant h₀ fun _ _ _ h he => h.step rfl htracks hfields he
  exact fun t n ht => h.signs _ ht

set_option maxRecDepth 100000 in
/-- Each of the two prefixes comes while a title is being rendered. -/
theorem written_authored_overlapping :
    let g : Setting := ⟨⟨⟨['o'], [['o']], false⟩⟩, 16, fun _ => {}, fun _ => { delay := 20 }⟩
    let url : Url := ⟨"data".toList, none, .whole ['x'], none, none⟩
    let events : List Event := [⟨10, [.prepend "1 ".toList]⟩, ⟨30, [.prepend "2 ".toList]⟩]
    let w : Origin := ⟨⟨({} : Options).format, url.location⟩, ['A'], events.flatMap Event.actions⟩
    let s := ofScript { page := Page.load url ['A'] } {} events
    g.store.load {} = .ok {} ∧ Format.tracksSuffix w.format = true ∧
      (∀ e ∈ events, ∀ a ∈ e.actions, a.prefixes = true) ∧
      Sign.write "2 1 A - data:///x".toList 50 ∈ (s.run g).signs ∧
      ∃ b, w.Authored b ∧ "2 1 A - data:///x".toList = w.render b := by
  intro g url events w s
  have hl : g.store.load {} = .ok {} := rfl
  have ht : Format.tracksSuffix w.format = true := by decide +kernel
  have ha : ∀ e ∈ events, ∀ a ∈ e.actions, a.prefixes = true := by decide
  have h : Sign.write "2 1 A - data:///x".toList 50 ∈ (s.run g).signs := by decide +kernel
  exact ⟨hl, ht, ha, h, written_authored hl ht (fun _ f => List.mem_map_of_mem f.mem_all) ha
    url ['A'] _ _ h⟩

end Session
end PageTitle
