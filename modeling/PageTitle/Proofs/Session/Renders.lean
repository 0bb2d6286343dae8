import PageTitle.Proofs.Session.Waiting

/-!
# A render for each write

`write_rendered`: each write of an observer has a call for a formatted title of its own, started
before and answered at the moment of the write, and the options of that moment select the page and
make the title that is written. A call ends once, and its number is not given again (`Spent`), so
that no two writes share a call. Where no options of such a moment select the page, the observer
writes nothing and the page goes on as if it had none (`ownPage`).
-/

namespace PageTitle

namespace Page

/-- The page after an action of its own. -/
def act (p : Page) (a : Action) : Page := ((a.written? p.title).map p.setTitle).getD p

/-- The page after what it does itself in a move. -/
def move (p : Page) : Move → Page
  | .event e => e.actions.foldl act p
  | .notice | .finish _ => p

theorem href_act (p : Page) (a : Action) : (p.act a).href = p.href := by
  unfold act
  cases a.written? p.title <;> rfl

theorem href_move (p : Page) (m : Move) : (p.move m).href = p.href := by
  cases m with
  | notice | finish => rfl
  | event e =>
    show (e.actions.foldl act p).href = p.href
    induction e.actions generalizing p with
    | nil => rfl
    | cons a l ih => rw [List.foldl_cons, ih, href_act]

end Page

namespace Session
variable {g : Setting} {s s' : Session} {m : Move} {c : Call} {r : FormatRequest} {t u : Text}
  {n k i : Nat}

/-- Move `n` writes the title `t`. -/
def Writes (g : Setting) (s : Session) (n : Nat) (t : Text) : Prop :=
  ∃ time, (runFor g (n + 1) s).signs = (runFor g n s).signs ++ [.write t time]

/-- Move `k` starts the call `c` for a formatted title, with the request `r`. -/
structure Requests (g : Setting) (s : Session) (k : Nat) (c : Call) (r : FormatRequest) : Prop where
  query : c.query = .format r
  number : c.number = (runFor g k s).formatCalls
  called : c ∈ (runFor g (k + 1) s).calls
  sign : ∃ time, (runFor g (k + 1) s).signs =
    (runFor g k s).signs ++ [.format c.number r.title r.previous time]

/-- Move `n` ends the call `c` for a formatted title with the answer to the request `r` under the
options `o`, which are loaded at this moment and select the address of the request. -/
structure Renders (g : Setting) (s : Session) (n : Nat) (c : Call) (r : FormatRequest)
    (o : Options) : Prop where
  next : (runFor g n s).next? = some (.finish c)
  query : c.query = .format r
  ending : c.ending = .answered
  options : g.store.load (runFor g n s).files = .ok o
  accepts : o.accepts r.url = true

/-- The page after `n` moves as it is if the observer writes nothing. -/
def ownPage (g : Setting) (s : Session) : (n : Nat) → Page
  | 0 => s.observer.page
  | n + 1 =>
    match (runFor g n s).next? with
    | none => ownPage g s n
    | some m => (ownPage g s n).move m

/-! ### The call behind a write -/

theorem write_effect (he : Effect g s m s') {time : Nat}
    (h : s'.signs = s.signs ++ [.write t time]) :
    ∃ c r o, m = .finish c ∧ c.query = .format r ∧ c.ending = .answered ∧
      g.store.load s.files = .ok o ∧ o.accepts r.url = true ∧
      (Update.make o.format ⟨r.location, r.title⟩ r.previous).title = t := by
  cases he with
  | drop | ignore | giveUp | die | skip | keep => simp [dequeue, withoutCall] at h
  | accept => simp [callConstants, dequeue] at h
  | ask => simp [callFormat, withoutCall] at h
  | @write c r u hq hc hk hu =>
    obtain ⟨ha, o, ho, hs, rfl⟩ := (update?_eq_some_iff hk).mp hu
    rw [notify_signs] at h
    cases List.append_cancel_left h
    exact ⟨c, r, o, rfl, hk, ha, ho, hs, rfl⟩
  | event => simp [close, actAll_signs, withoutEvent] at h

theorem Writes.exists_renders (h : Writes g s n t) :
    ∃ c r o, Renders g s n c r o ∧
      (Update.make o.format ⟨r.location, r.title⟩ r.previous).title = t := by
  obtain ⟨time, h⟩ := h
  rw [runFor_succ] at h
  cases hm : (runFor g n s).next? with
  | none => simp [hm] at h
  | some m =>
    rw [hm] at h
    obtain ⟨c, r, o, rfl, hk, ha, ho, hs, ht⟩ := write_effect (effect_step hm) h
    exact ⟨c, r, o, ⟨hm, hk, ha, ho, hs⟩, ht⟩

/-- A call for a formatted title that a move leaves in flight was so before, or the move is its
start. -/
theorem format_call_effect (he : Effect g s m s') (hc : c ∈ s'.calls) (hk : c.query = .format r) :
    c ∈ s.calls ∨ c.number = s.formatCalls ∧ r.url = s.observer.page.href ∧
      ∃ time, s'.signs = s.signs ++ [.format c.number r.title r.previous time] := by
  cases he with
  | drop => exact .inl hc
  | accept =>
    rcases List.mem_append.mp hc with hc | hc
    · exact .inl hc
    · rw [List.mem_singleton.mp hc] at hk
      cases hk
  | ask =>
    rcases List.mem_append.mp hc with hc | hc
    · exact .inl (List.mem_of_mem_erase hc)
    · obtain rfl := List.mem_singleton.mp hc
      cases hk
      exact .inr ⟨rfl, rfl, _, rfl⟩
  | ignore | giveUp | die | skip | keep => exact .inl (List.mem_of_mem_erase hc)
  | write =>
    rw [notify_calls] at hc
    exact .inl (List.mem_of_mem_erase hc)
  | event =>
    simp only [close, actAll_calls] at hc
    exact .inl hc

theorem exists_requests (h₀ : s.calls = []) (hc : c ∈ (runFor g n s).calls)
    (hk : c.query = .format r) :
    ∃ k < n, Requests g s k c r ∧ r.url = (runFor g k s).observer.page.href := by
  induction n with
  | zero => simp [runFor, h₀] at hc
  | succ n ih =>
    by_cases hn : c ∈ (runFor g n s).calls
    · obtain ⟨k, hkn, h⟩ := ih hn
      exact ⟨k, Nat.lt_succ_of_lt hkn, h⟩
    · -- the call is new after move `n`
      have hs := runFor_succ g n s
      cases hm : (runFor g n s).next? with
      | none =>
        rw [hs, hm] at hc
        exact absurd hc hn
      | some m =>
        rw [hm] at hs
        have hc' := hc
        rw [hs] at hc'
        rcases format_call_effect (effect_step hm) hc' hk with h | ⟨hnumber, hurl, time, hsign⟩
        · exact absurd h hn
        · refine ⟨n, Nat.lt_succ_self n, ⟨hk, hnumber, hc, time, ?_⟩, hurl⟩
          rw [hs, hsign]

/-! ### Numbers of calls -/

/-- Calls for formatted titles that are in flight have different numbers, and none that is still to
be given. -/
structure Numbered (s : Session) : Prop where
  given : ∀ c ∈ s.calls, c.isFormat = true → c.number < s.formatCalls
  distinct : s.calls.Pairwise fun c d => c.isFormat = true → d.isFormat = true → c.number ≠ d.number

/-- No call for a formatted title that is in flight or still to come has the number. -/
structure Spent (k : Nat) (s : Session) : Prop where
  given : k < s.formatCalls
  absent : ∀ c ∈ s.calls, c.isFormat = true → c.number ≠ k

/-- A move takes calls away and starts one at most, and a number is given once. -/
theorem calls_effect (he : Effect g s m s') :
    s.formatCalls ≤ s'.formatCalls ∧ ∃ (l : List Call) (new : Option Call),
      l.Sublist s.calls ∧ s'.calls = l ++ new.toList ∧
        ∀ c ∈ new, c.isFormat = true → s.formatCalls ≤ c.number ∧ c.number < s'.formatCalls := by
  cases he with
  | drop => exact ⟨Nat.le_refl _, _, none, .refl _, (List.append_nil _).symm, nofun⟩
  | accept =>
    refine ⟨Nat.le_refl _, _, some _, .refl _, rfl, fun c hc hf => ?_⟩
    cases hc
    cases hf
  | ask =>
    refine ⟨Nat.le_succ _, _, some _, List.erase_sublist, rfl, fun c hc _ => ?_⟩
    cases hc
    exact ⟨Nat.le_refl _, Nat.lt_succ_self _⟩
  | ignore | giveUp | die | skip | keep =>
    exact ⟨Nat.le_refl _, _, none, List.erase_sublist, (List.append_nil _).symm, nofun⟩
  | write =>
    obtain ⟨queued, h⟩ := notify_eq g.capacity _
    rw [h]
    exact ⟨Nat.le_refl _, _, none, List.erase_sublist, (List.append_nil _).symm, nofun⟩
  | @event e =>
    obtain ⟨_, _, _, _, h⟩ := actAll_eq g (s.withoutEvent e) e.actions
    rw [h]
    exact ⟨Nat.le_refl _, _, none, .refl _, (List.append_nil _).symm, nofun⟩

theorem Numbered.step (h : s.Numbered) (he : Effect g s m s') : s'.Numbered := by
  obtain ⟨hle, l, new, hl, hc, hnew⟩ := calls_effect he
  constructor
  · intro c hmem hf
    rw [hc] at hmem
    rcases List.mem_append.mp hmem with hmem | hmem
    · exact Nat.lt_of_lt_of_le (h.given c (hl.mem hmem) hf) hle
    · exact (hnew c (Option.mem_toList.mp hmem) hf).2
  · rw [hc, List.pairwise_append]
    refine ⟨h.distinct.sublist hl, ?_, fun c hmem d hd hf hf' => ?_⟩
    · cases new <;> simp
    · have h₁ := h.given c (hl.mem hmem) hf
      have h₂ := (hnew d (Option.mem_toList.mp hd) hf').1
      omega

theorem numbered_runFor (h : s.Numbered) (n : Nat) : (runFor g n s).Numbered :=
  (Reachable.refl.runFor n).invariant h fun _ _ _ h he => h.step he

theorem Spent.step (h : s.Spent k) (he : Effect g s m s') : s'.Spent k := by
  obtain ⟨hle, l, new, hl, hc, hnew⟩ := calls_effect he
  refine ⟨Nat.lt_of_lt_of_le h.given hle, fun c hmem hf => ?_⟩
  rw [hc] at hmem
  rcases List.mem_append.mp hmem with hmem | hmem
  · exact h.absent c (hl.mem hmem) hf
  · have h₁ := h.given
    have h₂ := (hnew c (Option.mem_toList.mp hmem) hf).1
    omega

theorem Spent.runFor (h : s.Spent k) (n : Nat) : (runFor g n s).Spent k :=
  (Reachable.refl.runFor n).invariant h fun _ _ _ h he => h.step he

theorem calls_finish_format (he : Effect g s (.finish c) s') (hk : c.query = .format r) :
    s'.calls = s.calls.erase c ∧ s'.formatCalls = s.formatCalls := by
  cases he with
  | ask _ _ hk' | ignore _ _ hk' | giveUp _ _ hk' | die _ _ hk' =>
    rw [hk] at hk'
    cases hk'
  | skip | keep => exact ⟨rfl, rfl⟩
  | write =>
    obtain ⟨queued, h⟩ := notify_eq g.capacity _
    rw [h]
    exact ⟨rfl, rfl⟩

/-- The number of a call that ends is not met again. -/
theorem spent_of_finish (h : s.Numbered) (hm : s.next? = some (.finish c))
    (hk : c.query = .format r) : (s.step g (.finish c)).Spent c.number := by
  have hc := mem_calls_of_next? hm
  have hf : c.isFormat = true := by rw [Call.isFormat, Call.isConstants, hk]; rfl
  obtain ⟨hcalls, hnumber⟩ := calls_finish_format (effect_step (g := g) hm) hk
  constructor
  · rw [hnumber]
    exact h.given c hc hf
  · intro d hd hf'
    rw [hcalls] at hd
    -- `c` may be anywhere in the list, and the numbers differ in each order of it
    have hp := h.distinct.perm (List.perm_cons_erase hc) fun h hd hc => (h hc hd).symm
    exact ((List.pairwise_cons.mp hp).1 d hd hf hf').symm

theorem Renders.eq_of_number {d : Call} {r' : FormatRequest} {o o' : Options} {n' : Nat}
    (hs : s.Numbered) (h : Renders g s n c r o) (h' : Renders g s n' d r' o')
    (hnumber : c.number = d.number) : n = n' := by
  have later {i j : Nat} {c d : Call} {r r' : FormatRequest} {o o' : Options}
      (hi : Renders g s i c r o) (hj : Renders g s j d r' o') (hij : i < j) :
      d.number ≠ c.number := by
    have hspent := spent_of_finish (g := g) (numbered_runFor hs i) hi.next hi.query
    obtain ⟨l, rfl⟩ := Nat.exists_eq_add_of_lt hij
    have hrun : runFor g (i + l + 1) s = runFor g l ((runFor g i s).step g (.finish c)) := by
      rw [Nat.add_right_comm, runFor_add, runFor_succ, hi.next]
    have hd := mem_calls_of_next? hj.next
    rw [hrun] at hd
    exact (hspent.runFor l).absent d hd (by rw [Call.isFormat, Call.isConstants, hj.query]; rfl)
  rcases Nat.lt_trichotomy n n' with hlt | heq | hlt
  · exact absurd hnumber.symm (later h h' hlt)
  · exact heq
  · exact absurd hnumber (later h' h hlt)

/-! ### Pages that are left alone -/

theorem page_act (g : Setting) (s : Session) (a : Action) :
    (act g s a).observer.page = s.observer.page.act a := by
  rw [act_observer, Page.act]
  cases a.written? s.observer.page.title <;> rfl

theorem page_actAll (g : Setting) (s : Session) (l : List Action) :
    (actAll g s l).observer.page = l.foldl Page.act s.observer.page := by
  induction l generalizing s with
  | nil => rfl
  | cons a l ih =>
    rw [List.foldl_cons, ← page_act g s a]
    exact ih (act g s a)

/-- A move that writes nothing changes the page as the page itself does, and leaves what the observer
knows of its writes, but for the last formatted title, which a new title makes it forget. -/
theorem unwritten_effect (he : Effect g s m s')
    (hw : ∀ t time, s'.signs ≠ s.signs ++ [.write t time]) :
    s'.observer.page = s.observer.page.move m ∧ s'.observer.suffix = s.observer.suffix ∧
      s'.observer.shown = s.observer.shown ∧
      (s'.observer.formatted = s.observer.formatted ∨ s'.observer.formatted = none) := by
  cases he with
  | drop | ask | ignore | giveUp | die | skip | keep => exact ⟨rfl, rfl, rfl, .inl rfl⟩
  | accept => exact ⟨rfl, rfl, rfl, .inr rfl⟩
  | write => exact absurd (notify_signs ..) (hw _ _)
  | @event e =>
    obtain ⟨p, hp⟩ := observer_actAll g (s.withoutEvent e) e.actions
    have hpage := page_actAll g (s.withoutEvent e) e.actions
    refine ⟨hpage, ?_, ?_, .inl ?_⟩ <;> simp only [close, hp] <;> rfl

theorem href_effect (he : Effect g s m s') :
    s'.observer.page.href = s.observer.page.href := by
  cases he with
  | drop | accept | ask | ignore | giveUp | die | skip | keep => rfl
  | write => rw [notify_observer]; rfl
  | @event e =>
    simp only [close, page_actAll]
    exact Page.href_move s.observer.page (.event e)

theorem href_runFor (g : Setting) (s : Session) (n : Nat) :
    (runFor g n s).observer.page.href = s.observer.page.href :=
  (Reachable.refl.runFor n).invariant (P := fun s' => s'.observer.page.href = s.observer.page.href)
    rfl fun _ _ _ h he => (href_effect he).trans h

theorem unwritten_runFor (hs : s.observer.formatted = none ∧ s.observer.suffix = none ∧
      s.observer.shown = none) (hw : ∀ n t, ¬Writes g s n t) (n : Nat) :
    (runFor g n s).observer.page = ownPage g s n ∧ (runFor g n s).observer.formatted = none ∧
      (runFor g n s).observer.suffix = none ∧ (runFor g n s).observer.shown = none := by
  induction n with
  | zero => exact ⟨rfl, hs⟩
  | succ n ih =>
    have hn : ∀ t time, (runFor g (n + 1) s).signs ≠ (runFor g n s).signs ++ [.write t time] :=
      fun t time h => hw n t ⟨time, h⟩
    rw [runFor_succ] at hn ⊢
    rw [ownPage]
    cases hm : (runFor g n s).next? with
    | none => exact ih
    | some m =>
      rw [hm] at hn
      obtain ⟨hpage, hsuffix, hshown, hformatted⟩ := unwritten_effect (effect_step hm) hn
      obtain ⟨hp, hf, hx, ht⟩ := ih
      refine ⟨hpage.trans (congrArg (Page.move · m) hp), ?_, hsuffix.trans hx, hshown.trans ht⟩
      rcases hformatted with h | h
      · exact h.trans hf
      · exact h

/-! ### Whole sessions -/

/-- Each write of a session has its own call for a formatted title, which was started before and ends
at the write: the options of that moment select the page and make the title that is written. No two
moves end the same call. If no options that are loaded when such a call is answered select the page,
there are no writes, the page shows its own titles and the observer knows of no formatted one. -/
theorem write_rendered (g : Setting) (p : Page) (files : FileTree) (events : List Event)
    (isOpen : Bool) :
    let s := start { page := p } files events isOpen
    (∀ n t, Writes g s n t → ∃ c r o, Renders g s n c r o ∧ r.url = p.href ∧
      (Update.make o.format ⟨r.location, r.title⟩ r.previous).title = t ∧
        ∃ k < n, Requests g s k c r) ∧
    (∀ n n' c c' r r' o o', Renders g s n c r o → Renders g s n' c' r' o' →
      c.number = c'.number → n = n') ∧
    ((∀ n c r o, (runFor g n s).next? = some (.finish c) → c.query = .format r →
        c.ending = .answered → g.store.load (runFor g n s).files = .ok o →
          o.accepts p.href = false) →
      ∀ n, (∀ t, ¬Writes g s n t) ∧ (runFor g n s).observer.page = ownPage g s n ∧
        (runFor g n s).observer.formatted = none ∧ (runFor g n s).observer.suffix = none ∧
          (runFor g n s).observer.shown = none) := by
  intro s
  have hwrite : ∀ n t, Writes g s n t → ∃ c r o, Renders g s n c r o ∧ r.url = p.href ∧
      (Update.make o.format ⟨r.location, r.title⟩ r.previous).title = t ∧
        ∃ k < n, Requests g s k c r := by
    intro n t h
    obtain ⟨c, r, o, hr, ht⟩ := h.exists_renders
    obtain ⟨k, hk, hq, hu⟩ := exists_requests rfl (mem_calls_of_next? hr.next) hr.query
    exact ⟨c, r, o, hr, hu.trans (href_runFor g s k), ht, k, hk, hq⟩
  refine ⟨hwrite, ?_, ?_⟩
  · intro n n' c c' r r' o o' h h' hnumber
    have hs : s.Numbered := ⟨nofun, .nil⟩
    exact h.eq_of_number hs h' hnumber
  · intro hnone
    have hw : ∀ n t, ¬Writes g s n t := by
      intro n t h
      obtain ⟨c, r, o, hr, hu, -⟩ := hwrite n t h
      have := hnone n c r o hr.next hr.query hr.ending hr.options
      rw [← hu, hr.accepts] at this
      cases this
    exact fun n => ⟨hw n, unwritten_runFor ⟨rfl, rfl, rfl⟩ hw n⟩

set_option maxRecDepth 100000 in
/-- The first call is answered after the second, under options that were saved between. -/
theorem write_rendered_reordered :
    let g : Setting := ⟨⟨⟨['o'], [['o']], false⟩⟩, 1, fun _ => {},
      fun n => { delay := if n = 0 then 30 else 5 }⟩
    let s := sample [⟨10, [.set ['B']]⟩, ⟨20, [.save { format := "x".toList }]⟩]
    Writes g s 5 "B - data:///x".toList ∧ Writes g s 8 ['x'] ∧
      ∃ c d r q o o', Renders g s 5 c r o ∧ Renders g s 8 d q o' ∧ c.number ≠ d.number ∧
        (∃ k < 5, Requests g s k c r) ∧ ∃ k < 8, Requests g s k d q := by
  intro g s
  have h₁ : Writes g s 5 "B - data:///x".toList := ⟨15, by decide +kernel⟩
  have h₂ : Writes g s 8 ['x'] := ⟨30, by decide +kernel⟩
  obtain ⟨hwrite, hown, -⟩ := write_rendered g
    (Page.load ⟨"data".toList, none, .whole ['x'], none, none⟩ ['A']) {}
    [⟨10, [.set ['B']]⟩, ⟨20, [.save { format := "x".toList }]⟩] true
  obtain ⟨c, r, o, hr, -, -, hk⟩ := hwrite 5 _ h₁
  obtain ⟨d, q, o', hq, -, -, hl⟩ := hwrite 8 _ h₂
  refine ⟨h₁, h₂, c, d, r, q, o, o', hr, hq, fun h => ?_, hk, hl⟩
  have := hown 5 8 c d r q o o' hr hq h
  omega

end Session
end PageTitle
