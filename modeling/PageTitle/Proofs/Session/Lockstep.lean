import PageTitle.Proofs.Session.Calls
import PageTitle.Proofs.Session.Round

/-!
# Sessions in lockstep

`run_now_eq_lockstep`: where each call is answered, with all fields of the location, before the next
event, a session does what an observer does whose rounds are over at once: the same requests in the
same order, the same writes, and the same observer in the end. Notifications that wait together come to
one round, and those of the observer's own writes to none. The proof follows a session through the
phases of a round (`Ends`): in each of them it is settled what the round will have done when it is over.
-/

namespace PageTitle

/-- An observer whose rounds are over at once, the files, and what it asked for and wrote so far: the
titles of its requests with the suffixes that were sent along, and the titles that were written. -/
structure Lockstep where
  observer : Observer
  files : FileTree
  asked : List (Text × Option Text) := []
  written : List Text := []

namespace Lockstep

/-- The answer to a request is received. -/
def receive (x : Lockstep) (u : Option Update) : Lockstep :=
  match u, x.observer.receive u with
  | some u, (.written, o) => { x with observer := o, written := x.written ++ [u.title] }
  | _, (_, o) => { x with observer := o }

/-- A request is answered under the options of the moment; without options there is no update. -/
def answer (store : Store) (x : Lockstep) (r : FormatRequest) : Lockstep :=
  x.receive ((store.load x.files).toOption.bind (Service.format · r))

/-- The request for the pending title is made and answered. -/
def request (store : Store) (x : Lockstep) : Lockstep :=
  match x.observer.request (LocationField.all.map LocationField.name) with
  | (none, o) => { x with observer := o }
  | (some r, o) =>
    answer store { x with observer := o, asked := x.asked ++ [(r.title, r.previous)] } r

/-- One round. -/
def round (store : Store) (x : Lockstep) : Lockstep :=
  match x.observer.notice with
  | (false, _) => x
  | (true, o) => request store { x with observer := o }

/-- An action of the page, or of others on the files. -/
def act (store : Store) (x : Lockstep) : Action → Lockstep
  | .set t => { x with observer := x.observer.setTitle t }
  | .prepend t => { x with observer := x.observer.setTitle (t ++ x.observer.page.title) }
  | .append t => { x with observer := x.observer.setTitle (x.observer.page.title ++ t) }
  | .notify | .look => x
  | .save o =>
    match store.save x.files o with
    | .ok (_, files) => { x with files }
    | .error _ => x
  | .overwrite t =>
    { x with files := (x.files.replace store.path (Utf8.encode t)).toOption.getD x.files }

/-- The actions of an event, and a round if one of them notifies. -/
def event (store : Store) (x : Lockstep) (e : Event) : Lockstep :=
  let x := e.actions.foldl (act store) x
  if e.notifies then x.round store else x

/-- One round at the start, and then the events one after the other. -/
def run (store : Store) (o : Observer) (files : FileTree) (events : List Event) : Lockstep :=
  events.foldl (event store) (round store { observer := o, files })

variable {store : Store} {x : Lockstep}

theorem round_of_redundant (h : x.observer.redundant = true) : x.round store = x := by
  rw [round, Observer.notice_of_redundant h]

theorem round_of_not_redundant (h : x.observer.redundant = false) :
    x.round store = request store { x with
      observer := { x.observer with pending := some x.observer.page.title, formatted := none } } := by
  rw [round, Observer.notice_of_not_redundant h]

theorem receive_of_unchanged {u : Update} (h : x.observer.formatted = some u.title) :
    x.receive (some u) = x := by
  simp only [receive, Observer.receive, h, if_true]

theorem receive_of_written {u : Update} (h : x.observer.formatted ≠ some u.title) :
    x.receive (some u) = { x with
      observer := { x.observer with
        page := x.observer.page.writeTitle u.title
        formatted := some u.title
        suffix := u.suffix
        shown := some (x.observer.page.writeTitle u.title).title }
      written := x.written ++ [u.title] } := by
  simp only [receive, Observer.receive, h, if_false]

/-- The request for a pending title. -/
theorem request_of_pending {t : Text} (h : x.observer.pending = some t) :
    x.request store = answer store { x with
      observer := { x.observer with pending := none }
      asked := x.asked ++ [(t, x.observer.suffix)] }
      ⟨x.observer.page.location, x.observer.page.href, t, x.observer.suffix⟩ := by
  have hall : ∀ f : LocationField, f.name ∈ LocationField.all.map LocationField.name :=
    fun f => List.mem_map_of_mem f.mem_all
  simp only [request, Observer.request, h, Option.map_some, Location.copyFields_of_all _ hall]

theorem observer_receive (u : Option Update) :
    (x.receive u).observer = (x.observer.receive u).2 := by
  unfold receive
  split
  · next h => rw [h]
  · next _ h => rw [h]

/-- A round is that of the observer. -/
theorem observer_round : (x.round store).observer =
    (x.observer.cycle (LocationField.all.map LocationField.name) fun r =>
      (store.load x.files).toOption.bind (Service.format · r)).2 := by
  cases hr : x.observer.redundant with
  | true => rw [round_of_redundant hr, Observer.cycle_of_redundant hr]
  | false =>
    rw [round_of_not_redundant hr, Observer.cycle_of_not_redundant hr]
    simp only [request, Observer.request, Option.map_some, answer, observer_receive]

end Lockstep

/-- The title and the suffix that a sign says are sent. -/
def Sign.asked? : Sign → Option (Text × Option Text)
  | .format _ title previous _ => some (title, previous)
  | .constants .. | .write .. => none

/-- The title that a sign says is written. -/
def Sign.written? : Sign → Option Text
  | .write title _ => some title
  | .constants .. | .format .. => none

namespace Session
variable {g : Setting} {s s' : Session} {m : Move} {x : Lockstep} {l : List Action}

/-- What has happened in a session up to a moment. -/
def now (s : Session) : Lockstep where
  observer := s.observer
  files := s.files
  asked := s.signs.filterMap Sign.asked?
  written := s.signs.filterMap Sign.written?

/-- Whether a call that ends is answered, with all fields of the location if it asks for these, and
whether none is in flight when an event comes. -/
def prompt (s : Session) : Move → Bool
  | .notice => true
  | .finish c => c.ending = .answered &&
      (c.isFormat || LocationField.all.all fun f => c.fields.contains f.name)
  | .event _ => s.calls.isEmpty

/-! ### Actions -/

theorem now_notify (k : Nat) (s : Session) : (notify k s).now = s.now := by
  obtain ⟨q, hq⟩ := notify_eq k s
  rw [hq]
  rfl

theorem now_callConstants (g : Setting) (s : Session) : (callConstants g s).now = s.now := by
  simp [now, callConstants, Sign.asked?, Sign.written?]

theorem now_callFormat (g : Setting) (s : Session) (r : FormatRequest) :
    (callFormat g s r).now = { s.now with asked := s.now.asked ++ [(r.title, r.previous)] } := by
  simp only [now, callFormat, List.filterMap_append]
  simp [Sign.asked?, List.filterMap_cons, Sign.written?]

theorem now_act (g : Setting) (s : Session) (a : Action) :
    (act g s a).now = s.now.act g.store a := by
  cases a with
  | set t | prepend t | append t => exact now_notify ..
  | notify => exact now_notify ..
  | save o =>
    simp only [act, Lockstep.act, now]
    cases g.store.save s.files o <;> rfl
  | overwrite t | look => rfl

theorem now_actAll (g : Setting) (s : Session) (l : List Action) :
    (actAll g s l).now = l.foldl (Lockstep.act g.store) s.now := by
  induction l generalizing s with
  | nil => rfl
  | cons a l ih => exact (ih (act g s a)).trans (by rw [now_act, List.foldl_cons])

theorem le_queued_actAll (g : Setting) (s : Session) (l : List Action) :
    s.queued ≤ (actAll g s l).queued :=
  actAll_induction (P := fun s' => s.queued ≤ s'.queued) (Nat.le_refl _)
    fun s' a _ h => Nat.le_trans h (le_queued_act g s' a)

/-- Of some actions with one that notifies, a notification waits. -/
theorem queued_actAll_pos (hk : 0 < g.capacity) (ho : s.isOpen = true)
    (hl : l.any Action.notifies = true) : 0 < (actAll g s l).queued := by
  induction l generalizing s with
  | nil => simp at hl
  | cons a l ih =>
    have ha : (act g s a).isOpen = true := by
      obtain ⟨_, _, _, _, ha⟩ := act_eq g s a
      rw [ha]
      exact ho
    cases hn : a.notifies with
    | false => exact ih ha (by simpa [hn] using hl)
    | true =>
      refine Nat.lt_of_lt_of_le ?_ (le_queued_actAll g (act g s a) l)
      cases a with
      | set t | prepend t | append t | notify => exact queued_notify_pos _ _ hk ho
      | save o | overwrite t | look => cases hn

/-! ### The phases of a round -/

/-- What will have happened when the round is over that a session is in. -/
inductive Ends (g : Setting) (s : Session) : Lockstep → Prop
  /-- There is no round. -/
  | rest (hq : s.queued = 0) (hc : s.calls = []) : Ends g s s.now
  /-- Notifications wait. -/
  | notified (hq : 0 < s.queued) (hc : s.calls = []) : Ends g s (s.now.round g.store)
  /-- The title waits for its request, and for the title notifications may wait. -/
  | called {c : Call} (hc : s.calls = [c]) (hk : c.query = .constants)
      (hp : s.observer.pending = some s.observer.page.title) : Ends g s (s.now.request g.store)
  /-- The request is made. -/
  | asked {c : Call} {r : FormatRequest} (hq : s.queued = 0) (hc : s.calls = [c])
      (hk : c.query = .format r) : Ends g s (s.now.answer g.store r)

theorem prompt_finish {c : Call} (h : s.prompt (.finish c) = true) :
    c.ending = .answered ∧ (c.query = .constants → ∀ f : LocationField, f.name ∈ c.fields) := by
  simp only [prompt, Bool.and_eq_true, decide_eq_true_eq, Bool.or_eq_true, List.all_eq_true,
    List.contains_iff_mem] at h
  refine ⟨h.1, fun hk f => ?_⟩
  rcases h.2 with hf | hf
  · simp [Call.isFormat, Call.isConstants, hk] at hf
  · exact hf f f.mem_all

theorem update?_of_answered {c : Call} {r : FormatRequest} (hk : c.query = .format r)
    (he : c.ending = .answered) :
    s.update? g c = (g.store.load s.files).toOption.bind (Service.format · r) := by
  rw [update?, hk, he]

/-- The notifications that wait find nothing new. -/
theorem ends_of_redundant (hc : s.calls = []) (hr : s.observer.redundant = true) :
    Ends g s s.now := by
  rcases Nat.eq_zero_or_pos s.queued with hq | hq
  · exact .rest hq hc
  · have h := Ends.notified (g := g) hq hc
    rwa [Lockstep.round_of_redundant (x := s.now) hr] at h

namespace Ends

theorem drop (h : Ends g s x) (hq : 0 < s.queued) (hr : s.observer.redundant = true) :
    Ends g s.dequeue x := by
  cases h with
  | rest hq' => omega
  | notified _ hc =>
    rw [Lockstep.round_of_redundant (x := s.now) hr]
    exact ends_of_redundant (s := s.dequeue) hc hr
  | called hc hk hp => exact .called (s := s.dequeue) hc hk hp
  | asked hq' => omega

theorem accept (h : Ends g s x) (hq : 0 < s.queued) (hr : s.observer.redundant = false) :
    Ends g (callConstants g { s.dequeue with
      observer := { s.observer with pending := some s.observer.page.title, formatted := none } })
      x := by
  cases h with
  | rest hq' => omega
  | notified _ hc =>
    rw [Lockstep.round_of_not_redundant (x := s.now) hr]
    have h := Ends.called (g := g) (s := callConstants g { s.dequeue with
      observer := { s.observer with pending := some s.observer.page.title, formatted := none } })
      (congrArg (· ++ [_]) hc) rfl rfl
    rwa [now_callConstants] at h
  | called _ _ hp => simp [Observer.redundant, hp] at hr
  | asked hq' => omega

theorem ask {c : Call} {t : Text} (h : Ends g s x) (hq : s.queued = 0) (hc : c ∈ s.calls)
    (hk : c.query = .constants) (hf : ∀ f : LocationField, f.name ∈ c.fields)
    (hp : s.observer.pending = some t) :
    Ends g (callFormat g { s.withoutCall c with
      observer := { s.observer with pending := none } }
      ⟨s.observer.page.location.copyFields c.fields, s.observer.page.href, t, s.observer.suffix⟩)
      x := by
  cases h with
  | rest _ hc' | notified _ hc' => rw [hc'] at hc; cases hc
  | called hc' =>
    cases List.mem_singleton.mp (hc' ▸ hc)
    rw [Location.copyFields_of_all _ hf, Lockstep.request_of_pending (x := s.now) hp]
    have h := Ends.asked (g := g) (s := callFormat g { s.withoutCall c with
      observer := { s.observer with pending := none } }
      ⟨s.observer.page.location, s.observer.page.href, t, s.observer.suffix⟩) hq
      (congrArg (· ++ [_]) (withoutCall_calls hc')) rfl
    rwa [now_callFormat] at h
  | asked _ hc' hk' =>
    cases List.mem_singleton.mp (hc' ▸ hc)
    rw [hk'] at hk
    cases hk

/-- A request is answered, and what it brings was received. -/
theorem answered {c : Call} {r : FormatRequest} (h : Ends g s x) (hc : c ∈ s.calls)
    (hk : c.query = .format r) (he : c.ending = .answered) :
    s.calls = [c] ∧ x = s.now.receive (s.update? g c) := by
  cases h with
  | rest _ hc' | notified _ hc' => rw [hc'] at hc; cases hc
  | called hc' hk' =>
    cases List.mem_singleton.mp (hc' ▸ hc)
    rw [hk] at hk'
    cases hk'
  | asked _ hc' hk' =>
    cases List.mem_singleton.mp (hc' ▸ hc)
    rw [hk] at hk'
    cases hk'
    exact ⟨hc', by rw [update?_of_answered hk he]; rfl⟩

/-- A move other than an event is one of the round. -/
theorem step (h : Ends g s x) (he : Effect g s m s') (hp : s.prompt m = true)
    (hm : ∀ e, m ≠ .event e) : Ends g s' x := by
  cases he with
  | drop hq hr => exact h.drop hq hr
  | accept hq hr => exact h.accept hq hr
  | ask hq hc hk _ ht => exact h.ask hq hc hk ((prompt_finish hp).2 hk) ht
  | ignore _ hc hk _ hn =>
    cases h with
    | rest _ hc' | notified _ hc' => rw [hc'] at hc; cases hc
    | called _ _ ht => rw [hn] at ht; cases ht
    | asked _ hc' hk' =>
      cases List.mem_singleton.mp (hc' ▸ hc)
      rw [hk'] at hk
      cases hk
  | giveUp _ _ _ he | die _ _ _ he => rw [(prompt_finish hp).1] at he; cases he
  | skip hq hc hk hu =>
    obtain ⟨hc', rfl⟩ := h.answered hc hk (prompt_finish hp).1
    rw [hu]
    exact .rest (s := s.withoutCall _) hq (withoutCall_calls hc')
  | keep hq hc hk hu hf =>
    obtain ⟨hc', rfl⟩ := h.answered hc hk (prompt_finish hp).1
    rw [hu, Lockstep.receive_of_unchanged (x := s.now) hf]
    exact .rest (s := s.withoutCall _) hq (withoutCall_calls hc')
  | @write c r u hq hc hk hu hf =>
    obtain ⟨hc', rfl⟩ := h.answered hc hk (prompt_finish hp).1
    rw [hu, Lockstep.receive_of_written (x := s.now) hf]
    -- the notification of the write finds the title that the observer itself wrote
    have hr : Ends g (notify g.capacity { s.withoutCall c with
        observer := { s.observer with
          page := s.observer.page.writeTitle u.title
          formatted := some u.title
          suffix := u.suffix
          shown := some (s.observer.page.writeTitle u.title).title }
        signs := s.signs ++ [.write u.title (max s.time c.due)] }) _ :=
      ends_of_redundant (by rw [notify_calls]; exact withoutCall_calls hc')
        (by simp [Observer.redundant])
    rw [now_notify] at hr
    simpa [now, withoutCall, Sign.asked?, Sign.written?, List.filterMap_cons] using hr
  | @event e => exact absurd rfl (hm e)

/-- An event that comes when no round goes on starts one, or none. -/
theorem event (h : Ends g s x) (hk : 0 < g.capacity) (ho : s.isOpen = true) (hq : s.queued = 0)
    (hc : s.calls = []) (e : Event) :
    Ends g (close (actAll g (s.withoutEvent e) e.actions)) (x.event g.store e) := by
  have hx : x = s.now := by
    cases h with
    | rest => rfl
    | notified hq' => omega
    | called hc' | asked _ hc' => rw [hc] at hc'; cases hc'
  have hc' : (close (actAll g (s.withoutEvent e) e.actions)).calls = [] :=
    (actAll_calls g (s.withoutEvent e) e.actions).trans hc
  have hn : (close (actAll g (s.withoutEvent e) e.actions)).now =
      e.actions.foldl (Lockstep.act g.store) x := by
    rw [hx]
    exact now_actAll g (s.withoutEvent e) e.actions
  unfold Lockstep.event
  cases he : e.notifies with
  | true =>
    rw [if_pos rfl, ← hn]
    exact .notified (queued_actAll_pos (s := s.withoutEvent e) hk ho he) hc'
  | false =>
    rw [if_neg Bool.false_ne_true, ← hn]
    exact .rest (queued_actAll_eq_zero (s := s.withoutEvent e) hq he) hc'

end Ends

/-! ### Whole sessions -/

theorem events_effect (he : Effect g s m s') (hm : ∀ e, m ≠ .event e) : s'.events = s.events := by
  cases he with
  | drop | accept | ask | ignore | giveUp | die | skip | keep => rfl
  | write => rw [notify_events]; rfl
  | @event e => exact absurd rfl (hm e)

/-- Round by round a session gets to where it is with all its events in lockstep. -/
theorem Ends.runFor (hk : 0 < g.capacity) {n : Nat} (h : Ends g s x)
    (ho : s.isOpen = !s.events.isEmpty) (hp : ∀ y ∈ course g n s, y.1.prompt y.2 = true)
    (hn : (runFor g n s).next? = none) :
    (runFor g n s).now = s.events.foldl (Lockstep.event g.store) x := by
  have rest {s : Session} {x : Lockstep} (h : Ends g s x) (hn : s.next? = none) :
      s.now = s.events.foldl (Lockstep.event g.store) x := by
    obtain ⟨hq, hc, he⟩ := next?_eq_none_iff.mp hn
    rw [he]
    cases h with
    | rest => rfl
    | notified hq' => omega
    | called hc' | asked _ hc' => rw [hc] at hc'; cases hc'
  induction n generalizing s x with
  | zero => exact rest h hn
  | succ n ih =>
    cases hm : s.next? with
    | none =>
      rw [runFor_of_next?_eq_none hm]
      exact rest h hm
    | some m =>
      have he := effect_step (g := g) hm
      rw [runFor_of_next? hm] at hn ⊢
      rw [course_of_next? hm] at hp
      obtain ⟨hp₀, hp⟩ := List.forall_mem_cons.mp hp
      have ho' := isOpen_effect he ho
      by_cases hv : ∃ e, m = .event e
      · obtain ⟨e, rfl⟩ := hv
        have hl := events_of_next? hm
        have ho₁ : s.isOpen = true := by rw [ho, hl]; rfl
        have h' : Ends g (s.step g (.event e)) (x.event g.store e) :=
          h.event hk ho₁ (queued_of_next? hm nofun) (List.isEmpty_iff.mp hp₀) e
        rw [ih h' ho' hp hn, hl, List.foldl_cons]
        exact congrArg (List.foldl _ _) (actAll_events g (s.withoutEvent e) e.actions)
      · have hv : ∀ e, m ≠ .event e := fun e he => hv ⟨e, he⟩
        rw [ih (h.step he hp₀ hv) ho' hp hn, events_effect he hv]

/-- A session whose calls are answered before the next event does what the same observer does in
lockstep. -/
theorem run_now_eq_lockstep {g : Setting} {p : Page} {files : FileTree} {events : List Event}
    (hcapacity : 0 < g.capacity)
    (hprompt : let s := ofScript { page := p } files events
      ∀ x ∈ s.course g s.weight, x.1.prompt x.2 = true) :
    ((ofScript { page := p } files events).run g).now =
      Lockstep.run g.store { page := p } files events := by
  let s := ofScript { page := p } files events
  have h : Ends g s (s.now.round g.store) := .notified Nat.one_pos rfl
  exact h.runFor hcapacity rfl hprompt (next?_run g s)

set_option maxRecDepth 100000 in
/-- Two writes come to one round, and in the next the options cannot be read. -/
theorem run_now_eq_lockstep_unreadable :
    let g : Setting := ⟨⟨⟨['o'], [['o']], false⟩⟩, 1, fun _ => { delay := 5 }, fun _ => { delay := 5 }⟩
    let p := Page.load ⟨"data".toList, none, .whole ['x'], none, none⟩ ['A']
    let events : List Event := [⟨20, [.set ['B'], .prepend "1 ".toList]⟩,
      ⟨40, [.overwrite ['x'], .append ['C']]⟩]
    let s := ofScript { page := p } {} events
    let x := Lockstep.run g.store { page := p } {} events
    0 < g.capacity ∧ (∀ x ∈ s.course g s.weight, x.1.prompt x.2 = true) ∧ (s.run g).now = x ∧
      x.asked = [(['A'], none), ("1 B".toList, some "- data:///x".toList),
        ("1 B - data:///xC".toList, some "- data:///x".toList)] ∧
      x.written = ["A - data:///x".toList, "1 B - data:///x".toList] := by
  intro g p events s x
  have hp : ∀ x ∈ s.course g s.weight, x.1.prompt x.2 = true := by decide +kernel
  exact ⟨Nat.one_pos, hp, run_now_eq_lockstep Nat.one_pos hp, by decide +kernel, by decide +kernel⟩

end Session
end PageTitle
