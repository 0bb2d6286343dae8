import PageTitle.Proofs.Session.Calls

/-!
# Titles that stay raw

`run_shown_iff`: where all calls are answered and the options select the page, a session ends with
the title that the observer wrote last, unless the last notification that mattered was overlooked. A
title that waits for its request is not noticed again, though since it was noticed another title may
have been written and the page have gone back to it; the answer is then the last formatted title once
more and is not written (`Observer.Overlooks`). Nothing else makes an observer lose a title of the
page: neither a full queue nor a duplicate nor an answer that comes late.
-/

namespace PageTitle

/-- A notification of the title that waits for its request, after the last formatted title was
written in its place: the answer can be that title again. -/
def Observer.Overlooks (o : Observer) : Prop :=
  o.pending = some o.page.title ∧ o.shown ≠ some o.page.title ∧ o.formatted ≠ none

theorem Observer.Overlooks.redundant {o : Observer} (h : o.Overlooks) : o.redundant = true := by
  simp [Observer.redundant, h.1]

namespace Session
variable {g : Setting} {address : Text} {s s' : Session} {m : Move} {l : List (Session × Move)}

/-- Whether the options are there and select the address when a call for a formatted title ends. -/
def selects (g : Setting) (address : Text) (s : Session) : Move → Bool
  | .finish c => c.isConstants || (g.store.load s.files).toOption.any (·.accepts address)
  | .notice | .event _ => true

/-- A move that neither notices nor writes a title. -/
def Still (g : Setting) (x : Session × Move) : Prop :=
  x.2 ≠ .notice ∧ (x.1.step g x.2).observer.page.writes = x.1.observer.page.writes

/-- A notification is overlooked, and after it none is noticed and nothing written. -/
def Overlooked (g : Setting) (l : List (Session × Move)) : Prop :=
  ∃ pre s post, l = pre ++ (s, .notice) :: post ∧ s.observer.Overlooks ∧ ∀ x ∈ post, Still g x

theorem overlooked_cons {x : Session × Move} : Overlooked g (x :: l) ↔
    (x.2 = .notice ∧ x.1.observer.Overlooks ∧ ∀ y ∈ l, Still g y) ∨ Overlooked g l := by
  constructor
  · rintro ⟨pre, s, post, hl, ho, hp⟩
    cases pre with
    | nil =>
      obtain ⟨rfl, rfl⟩ := List.cons.inj hl
      exact .inl ⟨rfl, ho, hp⟩
    | cons y pre => exact .inr ⟨pre, s, post, (List.cons.inj hl).2, ho, hp⟩
  · rintro (⟨hx, ho, hp⟩ | ⟨pre, s, post, rfl, ho, hp⟩)
    · exact ⟨[], x.1, l, by rw [← hx]; rfl, ho, hp⟩
    · exact ⟨x :: pre, s, post, rfl, ho, hp⟩

theorem not_overlooked_nil : ¬Overlooked g [] := by
  rintro ⟨pre, s, post, hl, -⟩
  simp at hl

/-! ### Sessions without failures -/

/-- The queue is open until the last event, all calls are going to be answered, requests are for the
page's address, and for a title that waits there is a call. -/
structure Live (address : Text) (s : Session) : Prop where
  isOpen : s.isOpen = !s.events.isEmpty
  answered : ∀ c ∈ s.calls, c.ending = .answered
  href : s.observer.page.href = address
  requests : ∀ c ∈ s.calls, ∀ r, c.query = .format r → r.url = address
  pending : s.observer.pending ≠ none → ∃ c ∈ s.calls, c.isConstants = true

/-- An action of the page leaves a notification behind or the observer as it was. -/
theorem queued_or_observer_actAll (hk : 0 < g.capacity) (ho : s.isOpen = true) (l : List Action) :
    0 < (actAll g s l).queued ∨ (actAll g s l).observer = s.observer := by
  refine (actAll_induction (g := g) (l := l)
    (P := fun s' => s'.isOpen = true ∧ (0 < s'.queued ∨ s'.observer = s.observer))
    ⟨ho, .inr rfl⟩ ?_).2
  rintro s' a - ⟨ho', h⟩
  constructor
  · obtain ⟨_, _, _, _, ha⟩ := act_eq g s' a
    rw [ha]
    exact ho'
  · cases a with
    | set t | prepend t | append t | notify => exact .inl (queued_notify_pos _ _ hk ho')
    | save o => simp only [act]; split <;> exact h
    | overwrite t | look => exact h

namespace Live

theorem finish {c : Call} (h : s.Live address) {o : Observer} (hh : o.page.href = address)
    (hp : o.pending ≠ none → s.observer.pending ≠ none ∧ c.isConstants = false) :
    Live address { s.withoutCall c with observer := o } where
  isOpen := h.isOpen
  answered d hd := h.answered d (List.mem_of_mem_erase hd)
  href := hh
  requests d hd := h.requests d (List.mem_of_mem_erase hd)
  pending hn := by
    obtain ⟨hn, hc⟩ := hp hn
    obtain ⟨d, hd, hd'⟩ := h.pending hn
    exact ⟨d, (List.mem_erase_of_ne fun he => by simp [he, hc] at hd').mpr hd, hd'⟩

theorem notify (h : s.Live address) (k : Nat) : (s.notify k).Live address where
  isOpen := by rw [notify_isOpen, notify_events]; exact h.isOpen
  answered := by rw [notify_calls]; exact h.answered
  href := by rw [notify_observer]; exact h.href
  requests := by rw [notify_calls]; exact h.requests
  pending := by rw [notify_observer, notify_calls]; exact h.pending

theorem withSigns (h : s.Live address) (signs : List Sign) : Live address { s with signs } :=
  { h with }

theorem step (hc : ∀ n, (g.constantsPlan n).ending = .answered)
    (hf : ∀ n, (g.formatPlan n).ending = .answered) (h : s.Live address) (he : Effect g s m s') :
    s'.Live address := by
  have ho := isOpen_effect he h.isOpen
  cases he with
  | drop => exact { h with }
  | accept =>
    exact
    { h with
      answered := List.forall_mem_append.mpr ⟨h.answered, List.forall_mem_singleton.mpr (hc _)⟩
      requests := List.forall_mem_append.mpr ⟨h.requests, List.forall_mem_singleton.mpr fun r hr => by cases hr⟩
      pending := fun _ => ⟨_, List.mem_append_right _ (List.mem_singleton_self _), rfl⟩ }
  | @ask c t =>
    have h' : Live address { s.withoutCall c with observer := { s.observer with pending := none } } :=
      h.finish h.href (absurd rfl ·)
    exact
    { h' with
      answered := List.forall_mem_append.mpr ⟨h'.answered, List.forall_mem_singleton.mpr (hf _)⟩
      requests := List.forall_mem_append.mpr ⟨h'.requests,
        List.forall_mem_singleton.mpr fun r hr => by cases hr; exact h.href⟩
      pending := (absurd rfl ·) }
  | ignore _ _ _ _ hp => exact h.finish h.href (absurd hp ·)
  | giveUp => exact h.finish h.href (absurd rfl ·)
  | die _ hc' _ he => rw [h.answered _ hc'] at he; cases he
  | skip _ _ hk | keep _ _ hk => exact h.finish h.href fun hn => ⟨hn, by rw [Call.isConstants, hk]⟩
  | @write c r u _ _ hk =>
    have h' := h.finish (c := c) (o := { s.observer with
      page := s.observer.page.writeTitle u.title
      formatted := some u.title
      suffix := u.suffix
      shown := some (s.observer.page.writeTitle u.title).title }) h.href
      fun hn => ⟨hn, by rw [Call.isConstants, hk]⟩
    exact (h'.withSigns _).notify g.capacity
  | @event e l =>
    have ha := actAll_induction (g := g) (s := s.withoutEvent e) (l := e.actions)
      (P := fun s' => s'.observer.page.href = address ∧ s'.observer.pending = s.observer.pending)
      ⟨h.href, rfl⟩ fun s' a _ h => by
        rw [act_observer]
        cases a.written? s'.observer.page.title <;> exact h
    have hl : (actAll g (s.withoutEvent e) e.actions).calls = s.calls := actAll_calls ..
    exact
    { isOpen := ho
      answered := by simp only [close, hl]; exact h.answered
      href := ha.1
      requests := by simp only [close, hl]; exact h.requests
      pending := by simp only [close, hl, ha.2]; exact h.pending }

end Live

/-! ### Titles that are going to be written -/

/-- The page shows what the observer wrote, or a notification waits, or the answer to come is for
the title and is going to be written. -/
def Covered (s : Session) : Prop :=
  s.observer.shown = some s.observer.page.title ∨ 0 < s.queued ∨
    s.observer.formatted = none ∧
      (s.observer.pending ≠ none ∨ ∃ c ∈ s.calls, c.isFormat = true)

/-- A notification that is not overlooked. -/
theorem covered_of_notice (he : Effect g s .notice s') (h : ¬s.observer.Overlooks) : s'.Covered := by
  cases he with
  | drop hq hr =>
    by_cases hs : s.observer.shown = some s.observer.page.title
    · exact .inl hs
    · have hp : s.observer.pending = some s.observer.page.title := by
        simpa [Observer.redundant, hs] using hr
      have hf : s.observer.formatted = none := by
        cases hf : s.observer.formatted with
        | none => rfl
        | some t => exact absurd ⟨hp, hs, by simp [hf]⟩ h
      exact .inr (.inr ⟨hf, .inl (by simp [dequeue, hp])⟩)
  | accept => exact .inr (.inr ⟨rfl, .inl (by simp [callConstants])⟩)

theorem Covered.step (hk : 0 < g.capacity) (hl : s.Live address) (h : s.Covered)
    (hs : s.selects g address m = true) (hm : m ≠ .notice) (he : Effect g s m s') : s'.Covered := by
  cases he with
  | drop | accept => exact absurd rfl hm
  | ask hq =>
    rcases h with h | h | ⟨hf, -⟩
    · exact .inl h
    · omega
    · exact .inr (.inr ⟨hf, .inr ⟨_, List.mem_append_right _ (List.mem_singleton_self _), rfl⟩⟩)
  | @ignore c hq hc hk' he hp =>
    rcases h with h | h | ⟨hf, hp' | ⟨d, hd, hd'⟩⟩
    · exact .inl h
    · omega
    · exact absurd hp hp'
    · -- the call that ends is not the one that will bring the title
      refine .inr (.inr ⟨hf, .inr ⟨d, (List.mem_erase_of_ne ?_).mpr hd, hd'⟩⟩)
      rintro rfl
      simp [Call.isFormat, Call.isConstants, hk'] at hd'
  | giveUp _ hc _ he | die _ hc _ he => rw [hl.answered _ hc] at he; cases he
  | @skip c r hq hc hk' hu =>
    simp only [selects, Call.isConstants, hk', Bool.false_or] at hs
    cases ho : g.store.load s.files with
    | error e => simp [ho, Except.toOption] at hs
    | ok o =>
      have ha : o.accepts r.url = true := by
        rw [hl.requests c hc r hk']
        simpa [ho, Except.toOption] using hs
      have := (update?_eq_some_iff hk').mpr ⟨hl.answered c hc, o, ho, ha, rfl⟩
      rw [hu] at this
      cases this
  | keep hq _ _ _ hf =>
    rcases h with h | h | ⟨hf', -⟩
    · exact .inl h
    · omega
    · rw [hf] at hf'; cases hf'
  | write => exact .inl (by rw [notify_observer])
  | @event e l hq he =>
    -- with an open queue that has room for one, no change of the title goes without a notification
    have ho : s.isOpen = true := by rw [hl.isOpen, he]; rfl
    rcases queued_or_observer_actAll (s := s.withoutEvent e) hk ho e.actions with hq' | ho'
    · exact .inr (.inl hq')
    · have hc : (actAll g (s.withoutEvent e) e.actions).calls = s.calls := actAll_calls ..
      rcases h with h | h | h
      · exact .inl (by simp only [close, ho']; exact h)
      · omega
      · exact .inr (.inr (by simp only [close, ho', hc]; exact h))

/-- When nothing is left to happen, the page shows what the observer wrote. -/
theorem Covered.shown (hl : s.Live address) (h : s.Covered) (hn : s.next? = none) :
    s.observer.shown = some s.observer.page.title := by
  obtain ⟨hq, hc, -⟩ := next?_eq_none_iff.mp hn
  rcases h with h | h | ⟨-, hp | ⟨c, hc', -⟩⟩
  · exact h
  · omega
  · obtain ⟨c, hc', -⟩ := hl.pending hp
    simp [hc] at hc'
  · simp [hc] at hc'

/-! ### Whole sessions -/

/-- A notification that waits is noticed. -/
theorem notice_mem_course {n : Nat} (hq : 0 < s.queued) (hn : (runFor g n s).next? = none) :
    (s, .notice) ∈ course g n s := by
  have hm := next?_eq_notice_iff.mpr hq
  cases n with
  | zero => rw [runFor, hm] at hn; cases hn
  | succ n => rw [course_of_next? hm]; exact List.mem_cons_self

/-- A session that is covered, or in which something is still noticed or written, ends with the title
that was written last unless a notification is overlooked. -/
theorem shown_or_overlooked (hk : 0 < g.capacity)
    (hc : ∀ n, (g.constantsPlan n).ending = .answered)
    (hf : ∀ n, (g.formatPlan n).ending = .answered) {n : Nat} (hl : s.Live address)
    (hn : (runFor g n s).next? = none)
    (hs : ∀ x ∈ course g n s, x.1.selects g address x.2 = true)
    (h : s.Covered ∨ ∃ x ∈ course g n s, ¬Still g x) :
    (runFor g n s).observer.shown = some (runFor g n s).observer.page.title ∨
      Overlooked g (course g n s) := by
  have rest {s : Session} (n : Nat) (hl : s.Live address) (hm : s.next? = none)
      (h : s.Covered ∨ ∃ x ∈ course g n s, ¬Still g x) :
      s.observer.shown = some s.observer.page.title := by
    rcases h with h | ⟨x, hx, -⟩
    · exact h.shown hl hm
    · simp [course_of_next?_eq_none hm] at hx
  induction n generalizing s with
  | zero => exact .inl (rest 0 hl hn h)
  | succ n ih =>
    cases hm : s.next? with
    | none =>
      rw [runFor_of_next?_eq_none hm]
      exact .inl (rest (n + 1) hl hm h)
    | some m =>
      have he := effect_step (g := g) hm
      have hl' := hl.step hc hf he
      rw [runFor_of_next? hm] at hn ⊢
      rw [course_of_next? hm] at hs h ⊢
      obtain ⟨hs₀, hs⟩ := List.forall_mem_cons.mp hs
      rw [overlooked_cons]
      by_cases ho : m = .notice ∧ s.observer.Overlooks
      · -- what is still noticed or written covers the session anew
        by_cases hq : ∃ x ∈ course g n (s.step g m), ¬Still g x
        · exact (ih hl' hn hs (.inr hq)).imp_right .inr
        · refine .inr (.inl ⟨ho.1, ho.2, fun x hx => ?_⟩)
          exact Classical.byContradiction fun hx' => hq ⟨x, hx, hx'⟩
      · refine (ih hl' hn hs ?_).imp_right .inr
        by_cases hm' : m = .notice
        · subst hm'
          exact .inl (covered_of_notice he fun ho' => ho ⟨rfl, ho'⟩)
        · by_cases hw : (s.step g m).observer.page.writes = s.observer.page.writes
          · rcases h with h | ⟨x, hx, hx'⟩
            · exact .inl (h.step hk hl hs₀ hm' he)
            · rcases List.mem_cons.mp hx with rfl | hx
              · exact absurd ⟨hm', hw⟩ hx'
              · exact .inr ⟨x, hx, hx'⟩
          · exact .inl (.inl (shown_of_write he hw))

/-- A move that neither notices nor writes a title and leaves no notification behind. -/
theorem shown_of_still (hk : 0 < g.capacity) (ho : s.isOpen = !s.events.isEmpty)
    (he : Effect g s m s') (hm : m ≠ .notice)
    (hw : s'.observer.page.writes = s.observer.page.writes) (hq' : s'.queued = 0) :
    s'.observer.shown = s.observer.shown ∧ s'.observer.page.title = s.observer.page.title := by
  cases he with
  | drop | accept => exact absurd rfl hm
  | ask | ignore | giveUp | die | skip | keep => exact ⟨rfl, rfl⟩
  | write => simp [withoutCall, Page.writeTitle] at hw
  | @event e l hq he =>
    have ho' : s.isOpen = true := by rw [ho, he]; rfl
    rcases queued_or_observer_actAll (s := s.withoutEvent e) hk ho' e.actions with h | h
    · exact absurd hq' (Nat.ne_of_gt h)
    · simp only [close, h]
      exact ⟨rfl, rfl⟩

/-- Where nothing is noticed or written any more, neither the title changes nor what the observer
knows of it. -/
theorem shown_runFor_of_still (hk : 0 < g.capacity) {n : Nat}
    (ho : s.isOpen = !s.events.isEmpty) (hn : (runFor g n s).next? = none)
    (hs : ∀ x ∈ course g n s, Still g x) :
    (runFor g n s).observer.shown = s.observer.shown ∧
      (runFor g n s).observer.page.title = s.observer.page.title := by
  induction n generalizing s with
  | zero => exact ⟨rfl, rfl⟩
  | succ n ih =>
    cases hm : s.next? with
    | none => rw [runFor_of_next?_eq_none hm]; exact ⟨rfl, rfl⟩
    | some m =>
      rw [runFor_of_next? hm] at hn ⊢
      rw [course_of_next? hm] at hs
      obtain ⟨⟨hm', hw⟩, hs⟩ := List.forall_mem_cons.mp hs
      have he := effect_step (g := g) hm
      have hq : (s.step g m).queued = 0 := Nat.eq_zero_of_not_pos fun hq =>
        absurd rfl (hs _ (notice_mem_course hq hn)).1
      obtain ⟨h₁, h₂⟩ := ih (isOpen_effect he ho) hn hs
      obtain ⟨h₃, h₄⟩ := shown_of_still hk ho he hm' hw hq
      exact ⟨h₁.trans h₃, h₂.trans h₄⟩

theorem observer_of_redundant (he : Effect g s .notice s') (hr : s.observer.redundant = true) :
    s'.observer = s.observer := by
  cases he with
  | drop => rfl
  | accept _ h => rw [hr] at h; cases h

/-- After a notification was overlooked and nothing noticed or written, the title stays raw. -/
theorem not_shown_of_overlooked (hk : 0 < g.capacity) {n : Nat}
    (ho : s.isOpen = !s.events.isEmpty) (hn : (runFor g n s).next? = none)
    (h : Overlooked g (course g n s)) :
    (runFor g n s).observer.shown ≠ some (runFor g n s).observer.page.title := by
  induction n generalizing s with
  | zero => exact absurd h not_overlooked_nil
  | succ n ih =>
    cases hm : s.next? with
    | none =>
      rw [course_of_next?_eq_none hm] at h
      exact absurd h not_overlooked_nil
    | some m =>
      rw [runFor_of_next? hm] at hn ⊢
      rw [course_of_next? hm, overlooked_cons] at h
      have he := effect_step (g := g) hm
      have ho' := isOpen_effect he ho
      rcases h with ⟨rfl, hov, hq⟩ | h
      · obtain ⟨h₁, h₂⟩ := shown_runFor_of_still hk ho' hn hq
        rw [h₁, h₂, observer_of_redundant he hov.redundant]
        exact hov.2.1
      · exact ih ho' hn h

/-- Where calls are answered and the options select the page, the page ends with the title that the
observer wrote last just if no notification was overlooked after which nothing was noticed or
written. -/
theorem run_shown_iff {g : Setting} {p : Page} {files : FileTree} {events : List Event}
    (hcapacity : 0 < g.capacity) (hconstants : ∀ n, (g.constantsPlan n).ending = .answered)
    (hformats : ∀ n, (g.formatPlan n).ending = .answered)
    (hselects : let s := ofScript { page := p } files events
      ∀ x ∈ s.course g s.weight, x.1.selects g p.href x.2 = true) :
    let s := ofScript { page := p } files events
    (s.run g).observer.shown = some (s.run g).observer.page.title ↔
      ¬Overlooked g (s.course g s.weight) := by
  intro s
  have hn := next?_run g s
  have hl : s.Live p.href := ⟨rfl, nofun, rfl, nofun, fun h => absurd rfl h⟩
  have hc : s.Covered := .inr (.inl Nat.one_pos)
  constructor
  · exact fun h ho => not_shown_of_overlooked hcapacity hl.isOpen hn ho h
  · exact (shown_or_overlooked hcapacity hconstants hformats hl hn hselects (.inl hc)).resolve_right

/-- The second call for what the renderer needs takes longer than the first for a formatted title. -/
def slowSecond : Setting where
  store := ⟨⟨['o'], [['o']], false⟩⟩
  capacity := 1
  constantsPlan n := { delay := if n = 1 then 30 else 0 }
  formatPlan n := { delay := if n = 0 then 20 else 0 }

/-- A page notifies for nothing and, when its title was rendered, goes back to its first one. -/
def goingBack : Session :=
  ofScript { page := Page.load ⟨"data".toList, none, .whole ['x'], none, none⟩ ['A'] } {}
    [⟨10, [.notify]⟩, ⟨30, [.set ['A']]⟩]

set_option maxRecDepth 100000 in
/-- The page's title stays raw though no call fails and the options select the page. -/
theorem goingBack_stays_raw :
    (∀ n, (slowSecond.constantsPlan n).ending = .answered) ∧
      (∀ n, (slowSecond.formatPlan n).ending = .answered) ∧
      (∀ x ∈ goingBack.course slowSecond goingBack.weight,
        x.1.selects slowSecond goingBack.observer.page.href x.2 = true) ∧
      (goingBack.run slowSecond).observer.shown = some "A - data:///x".toList ∧
      (goingBack.run slowSecond).observer.page.title = ['A'] :=
  ⟨fun _ => rfl, fun _ => rfl, by decide +kernel, by decide +kernel, by decide +kernel⟩

set_option maxRecDepth 100000 in
/-- The notification of the page's going back is overlooked. -/
theorem overlooked_goingBack :
    (∀ x ∈ goingBack.course slowSecond goingBack.weight,
        x.1.selects slowSecond goingBack.observer.page.href x.2 = true) ∧
      (goingBack.run slowSecond).observer.shown ≠
        some (goingBack.run slowSecond).observer.page.title ∧
      Overlooked slowSecond (goingBack.course slowSecond goingBack.weight) := by
  have hs : ∀ x ∈ goingBack.course slowSecond goingBack.weight,
    x.1.selects slowSecond goingBack.observer.page.href x.2 = true := by decide +kernel
  have hne : (goingBack.run slowSecond).observer.shown ≠
    some (goingBack.run slowSecond).observer.page.title := by decide +kernel
  refine ⟨hs, hne, Classical.byContradiction fun h => ?_⟩
  exact hne ((run_shown_iff Nat.one_pos (fun _ => rfl) (fun _ => rfl) hs).mpr h)

end Session
end PageTitle
