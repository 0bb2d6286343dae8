import PageTitle.Session.Termination

/-!
# What a move does

`Effect`: all that a move can do to a session, one constructor a case with its guards, and
`effect_step`: each move that comes next does one of these. Invariants of sessions are shown case by
case along `Reachable`. Actions of the page are apart, in `act_observer` and its like.
-/

namespace PageTitle

/-- The text that an action makes of a page's title, if it writes one. -/
def Action.written? (title : Text) : Action → Option Text
  | .set t => some t
  | .prepend t => some (t ++ title)
  | .append t => some (title ++ t)
  | _ => none

/-- Whether an action notifies the observer. -/
def Action.notifies : Action → Bool
  | .set _ | .prepend _ | .append _ | .notify => true
  | _ => false

def Call.isConstants (c : Call) : Bool := match c.query with
  | .constants => true
  | .format _ => false

def Call.isFormat (c : Call) : Bool := !c.isConstants

namespace Session

/-- The update that the end of a call brings, if it brings one. -/
def update? (g : Setting) (s : Session) (c : Call) : Option Update :=
  match c.query, c.ending with
  | .format r, .answered => (g.store.load s.files).toOption.bind (Service.format · r)
  | _, _ => none

variable {g : Setting} {s s₀ : Session}

theorem update?_eq_some_iff {c : Call} {r : FormatRequest} {u : Update} (hk : c.query = .format r) :
    s.update? g c = some u ↔ c.ending = .answered ∧
      ∃ o, g.store.load s.files = .ok o ∧ o.accepts r.url = true ∧
        Update.make o.format ⟨r.location, r.title⟩ r.previous = u := by
  unfold update?
  rw [hk]
  cases c.ending <;> cases g.store.load s.files <;> simp [Service.format, Except.toOption]

/-! ### Notifications -/

section
variable (k : Nat) (s : Session)

@[simp] theorem notify_observer : (notify k s).observer = s.observer := by
  unfold notify; split <;> rfl

@[simp] theorem notify_files : (notify k s).files = s.files := by unfold notify; split <;> rfl

@[simp] theorem notify_events : (notify k s).events = s.events := by unfold notify; split <;> rfl

@[simp] theorem notify_isOpen : (notify k s).isOpen = s.isOpen := by unfold notify; split <;> rfl

@[simp] theorem notify_calls : (notify k s).calls = s.calls := by unfold notify; split <;> rfl

@[simp] theorem notify_constantsCalls : (notify k s).constantsCalls = s.constantsCalls := by
  unfold notify; split <;> rfl

@[simp] theorem notify_signs : (notify k s).signs = s.signs := by unfold notify; split <;> rfl

theorem notify_eq : ∃ queued, notify k s = { s with queued } := by
  unfold notify
  split
  · exact ⟨_, rfl⟩
  · exact ⟨s.queued, rfl⟩

theorem le_queued_notify : s.queued ≤ (notify k s).queued := by
  unfold notify
  split
  · exact Nat.le_succ _
  · exact Nat.le_refl _

/-- A queue that is open and has room for one holds a notification after each. -/
theorem queued_notify_pos (hk : 0 < k) (ho : s.isOpen = true) : 0 < (notify k s).queued := by
  unfold notify
  split
  · exact Nat.succ_pos _
  · next h => simp [ho] at h; omega

end

/-! ### Actions -/

section
variable (g : Setting) (s : Session) (a : Action)

theorem act_observer : (act g s a).observer =
    ((a.written? s.observer.page.title).map s.observer.setTitle).getD s.observer := by
  cases a with
  | set t | prepend t | append t | notify => exact notify_observer ..
  | save o => simp only [act]; split <;> rfl
  | overwrite t | look => rfl

/-- An action changes the page, the files and the queue, and what was looked at. -/
theorem act_eq : ∃ o files queued looks,
    act g s a = { s with observer := o, files, queued, looks } := by
  cases a with
  | set t | prepend t | append t =>
    obtain ⟨q, hq⟩ := notify_eq g.capacity { s with observer := s.observer.setTitle _ }
    exact ⟨_, _, q, _, hq⟩
  | notify =>
    obtain ⟨q, hq⟩ := notify_eq g.capacity s
    exact ⟨_, _, q, _, hq⟩
  | save o => simp only [act]; split <;> exact ⟨_, _, _, _, rfl⟩
  | overwrite t | look => exact ⟨_, _, _, _, rfl⟩

theorem le_queued_setTitle (t : Text) : s.queued ≤ (setTitle g s t).queued :=
  le_queued_notify g.capacity { s with observer := s.observer.setTitle t }

theorem le_queued_act : s.queued ≤ (act g s a).queued := by
  cases a with
  | set t | prepend t | append t => exact le_queued_setTitle ..
  | notify => exact le_queued_notify ..
  | save o => simp only [act]; split <;> exact Nat.le_refl _
  | overwrite t | look => exact Nat.le_refl _

theorem queued_act_of_not_notifies (h : a.notifies = false) : (act g s a).queued = s.queued := by
  cases a with
  | set t | prepend t | append t | notify => cases h
  | save o => simp only [act]; split <;> rfl
  | overwrite t | look => rfl

end

/-- What each of some actions keeps, all of them keep. -/
theorem actAll_induction {P : Session → Prop} {l : List Action} (h₀ : P s)
    (h : ∀ s, ∀ a ∈ l, P s → P (act g s a)) : P (actAll g s l) := by
  induction l generalizing s with
  | nil => exact h₀
  | cons a l ih =>
    exact ih (h s a List.mem_cons_self h₀) fun s b hb => h s b (List.mem_cons_of_mem a hb)

theorem actAll_eq (g : Setting) (s : Session) (l : List Action) : ∃ o files queued looks,
    actAll g s l = { s with observer := o, files, queued, looks } := by
  refine actAll_induction (P := fun s' => ∃ o files queued looks,
    s' = { s with observer := o, files, queued, looks }) ⟨_, _, _, _, rfl⟩ ?_
  rintro s' a - ⟨o, files, queued, looks, rfl⟩
  obtain ⟨o', files', queued', looks', h⟩ :=
    act_eq g { s with observer := o, files, queued, looks } a
  exact ⟨o', files', queued', looks', h⟩

theorem actAll_isOpen (s : Session) (l : List Action) : (actAll g s l).isOpen = s.isOpen := by
  obtain ⟨_, _, _, _, h⟩ := actAll_eq g s l
  rw [h]

theorem actAll_signs (s : Session) (l : List Action) : (actAll g s l).signs = s.signs := by
  obtain ⟨_, _, _, _, h⟩ := actAll_eq g s l
  rw [h]

/-! ### Moves -/

/-- What a move does to a session. -/
inductive Effect (g : Setting) (s : Session) : Move → Session → Prop
  /-- The title needs no request. -/
  | drop (hq : 0 < s.queued) (h : s.observer.redundant = true) : Effect g s .notice s.dequeue
  /-- The title is new and waits for its request. -/
  | accept (hq : 0 < s.queued) (h : s.observer.redundant = false) :
      Effect g s .notice (callConstants g { s.dequeue with
        observer := { s.observer with pending := some s.observer.page.title, formatted := none } })
  /-- The request for the title that waits is made. -/
  | ask {c : Call} {t : Text} (hq : s.queued = 0) (hc : c ∈ s.calls) (hk : c.query = .constants)
      (he : c.ending = .answered) (hp : s.observer.pending = some t) :
      Effect g s (.finish c) (callFormat g { s.withoutCall c with
        observer := { s.observer with pending := none } }
        ⟨s.observer.page.location.copyFields c.fields, s.observer.page.href, t, s.observer.suffix⟩)
  /-- No title waits for a request. -/
  | ignore {c : Call} (hq : s.queued = 0) (hc : c ∈ s.calls) (hk : c.query = .constants)
      (he : c.ending = .answered) (hp : s.observer.pending = none) :
      Effect g s (.finish c) (s.withoutCall c)
  /-- The title that waits is forgotten. -/
  | giveUp {c : Call} (hq : s.queued = 0) (hc : c ∈ s.calls) (hk : c.query = .constants)
      (he : c.ending = .failed) :
      Effect g s (.finish c) { s.withoutCall c with observer := s.observer.giveUp }
  /-- Nothing comes back, and the title that waits goes on waiting. -/
  | die {c : Call} (hq : s.queued = 0) (hc : c ∈ s.calls) (hk : c.query = .constants)
      (he : c.ending = .died) : Effect g s (.finish c) (s.withoutCall c)
  /-- There is no update. -/
  | skip {c : Call} {r : FormatRequest} (hq : s.queued = 0) (hc : c ∈ s.calls)
      (hk : c.query = .format r) (hu : s.update? g c = none) :
      Effect g s (.finish c) (s.withoutCall c)
  /-- The update is the last formatted title again. -/
  | keep {c : Call} {r : FormatRequest} {u : Update} (hq : s.queued = 0) (hc : c ∈ s.calls)
      (hk : c.query = .format r) (hu : s.update? g c = some u)
      (hf : s.observer.formatted = some u.title) : Effect g s (.finish c) (s.withoutCall c)
  /-- The update is written. -/
  | write {c : Call} {r : FormatRequest} {u : Update} (hq : s.queued = 0) (hc : c ∈ s.calls)
      (hk : c.query = .format r) (hu : s.update? g c = some u)
      (hf : s.observer.formatted ≠ some u.title) :
      Effect g s (.finish c) (notify g.capacity { s.withoutCall c with
        observer := { s.observer with
          page := s.observer.page.writeTitle u.title
          formatted := some u.title
          suffix := u.suffix
          shown := some (s.observer.page.writeTitle u.title).title }
        signs := s.signs ++ [.write u.title (max s.time c.due)] })
  /-- The page acts. -/
  | event {e : Event} {l : List Event} (hq : s.queued = 0) (he : s.events = e :: l) :
      Effect g s (.event e) (close (actAll g (s.withoutEvent e) e.actions))

theorem next?_eq_notice_iff : s.next? = some .notice ↔ 0 < s.queued := by
  unfold next?
  split
  · next h => simpa using h
  · next h =>
    refine iff_of_false ?_ h
    split <;> (try split) <;> simp

theorem queued_of_next? {m : Move} (h : s.next? = some m) (hm : m ≠ .notice) : s.queued = 0 := by
  by_cases hq : 0 < s.queued
  · rw [next?_eq_notice_iff.mpr hq] at h
    cases h
    exact absurd rfl hm
  · omega

theorem mem_calls_of_next? {c : Call} (h : s.next? = some (.finish c)) : c ∈ s.calls := by
  unfold next? at h
  split at h
  · cases h
  · split at h
    · cases h
    · next hc _ => cases h; exact firstDue_mem hc
    · cases h
    · next hc _ =>
      split at h <;> cases h
      exact firstDue_mem hc

theorem events_of_next? {e : Event} (h : s.next? = some (.event e)) :
    s.events = e :: s.events.tail := by
  unfold next? at h
  split at h
  · cases h
  · split at h
    · cases h
    · cases h
    · next he => cases h; rw [he]; rfl
    · next he =>
      split at h <;> cases h
      rw [he]; rfl

theorem firstDue_eq_none_iff {l : List Call} : firstDue l = none ↔ l = [] := by
  cases l with
  | nil => simp [firstDue]
  | cons c r =>
    simp only [firstDue, reduceCtorEq, iff_false]
    split
    · simp
    · split <;> simp

/-- Nothing comes next where nothing waits, is in flight or is still to happen. -/
theorem next?_eq_none_iff : s.next? = none ↔ s.queued = 0 ∧ s.calls = [] ∧ s.events = [] := by
  unfold next?
  split
  · next h => simp; omega
  · next h =>
    have hq : s.queued = 0 := by omega
    split
    · next hc he => simp [hq, he, firstDue_eq_none_iff.mp hc]
    · next c hc he =>
      have : s.calls ≠ [] := fun h => by rw [h] at hc; cases hc
      simp [this]
    · next he => simp [he]
    · next he => split <;> simp [he]

theorem effect_notice (hq : 0 < s.queued) : Effect g s .notice (notice g s.dequeue) := by
  unfold notice
  cases hr : s.observer.redundant with
  | true =>
    rw [Observer.notice_of_redundant (o := s.dequeue.observer) hr]
    exact .drop hq hr
  | false =>
    rw [Observer.notice_of_not_redundant (o := s.dequeue.observer) hr]
    exact .accept hq hr

theorem effect_dispatch {c : Call} (hq : s.queued = 0) (hc : c ∈ s.calls)
    (hk : c.query = .constants) (he : c.ending = .answered) :
    Effect g s (.finish c) (dispatch g (s.withoutCall c) c.fields) := by
  unfold dispatch Observer.request
  cases hp : s.observer.pending with
  | none =>
    have ho : { s.observer with pending := none } = s.observer := by rw [← hp]
    simp only [withoutCall, hp, ho, Option.map_none]
    exact .ignore hq hc hk he hp
  | some t =>
    simp only [withoutCall, hp, Option.map_some]
    exact .ask hq hc hk he hp

theorem effect_receive {c : Call} {r : FormatRequest} {o : Options} (hq : s.queued = 0)
    (hc : c ∈ s.calls) (hk : c.query = .format r) (he : c.ending = .answered)
    (ho : g.store.load s.files = .ok o) :
    Effect g s (.finish c) (receive g (s.withoutCall c) (Service.format o r)) := by
  have hu : s.update? g c = Service.format o r := by
    unfold update?
    rw [hk, he, ho]
    rfl
  cases h : Service.format o r with
  | none => exact .skip hq hc hk (hu.trans h)
  | some u =>
    by_cases hf : s.observer.formatted = some u.title
    · have hr : s.observer.receive (some u) = (.unchanged, s.observer) := by
        simp [Observer.receive, hf]
      simp only [receive, withoutCall, hr]
      exact .keep hq hc hk (hu.trans h) hf
    · simp only [receive, withoutCall, Observer.receive, hf, if_false]
      exact .write hq hc hk (hu.trans h) hf

theorem effect_finish {c : Call} (hq : s.queued = 0) (hc : c ∈ s.calls) :
    Effect g s (.finish c) (finish g (s.withoutCall c) c) := by
  unfold finish
  split
  · next hk he => exact effect_dispatch hq hc hk he
  · next hk he => exact .giveUp hq hc hk he
  · next r hk he =>
    split
    · next o ho => exact effect_receive hq hc hk he ho
    · next e ho =>
      refine .skip hq hc hk ?_
      have ho : g.store.load s.files = .error e := ho
      unfold update?
      rw [hk, he, ho]
      rfl
  · next h₁ h₂ h₃ =>
    cases hk : c.query with
    | constants =>
      cases he : c.ending with
      | answered => exact absurd he (h₁ hk)
      | failed => exact absurd he (h₂ hk)
      | died => exact .die hq hc hk he
    | format r =>
      refine .skip hq hc hk ?_
      unfold update?
      cases he : c.ending with
      | answered => exact absurd he (h₃ r hk)
      | failed => rw [hk]
      | died => rw [hk]

/-- What comes next does what is listed. -/
theorem effect_step {m : Move} (h : s.next? = some m) : Effect g s m (s.step g m) := by
  cases m with
  | notice => exact effect_notice (next?_eq_notice_iff.mp h)
  | finish c => exact effect_finish (queued_of_next? h (by simp)) (mem_calls_of_next? h)
  | event e => exact .event (queued_of_next? h (by simp)) (events_of_next? h)

/-- The queue stays open until the last event. -/
theorem isOpen_effect {m : Move} {s' : Session} (he : Effect g s m s')
    (h : s.isOpen = !s.events.isEmpty) : s'.isOpen = !s'.events.isEmpty := by
  cases he with
  | drop | accept | ask | ignore | giveUp | die | skip | keep => exact h
  | write => rw [notify_isOpen, notify_events]; exact h
  | @event e l _ he =>
    simp only [close, actAll_isOpen, actAll_events]
    simp [withoutEvent, h, he]

/-! ### Courses -/

theorem runFor_add (g : Setting) (n k : Nat) (s : Session) :
    runFor g (n + k) s = runFor g k (runFor g n s) := by
  induction n generalizing s with
  | zero => rw [Nat.zero_add, runFor]
  | succ n ih =>
    rw [Nat.succ_add, runFor, runFor]
    split
    · next hm =>
      cases k with
      | zero => rw [runFor]
      | succ k => rw [runFor, hm]
    · exact ih _

theorem runFor_succ (g : Setting) (n : Nat) (s : Session) :
    runFor g (n + 1) s = match (runFor g n s).next? with
      | none => runFor g n s
      | some m => (runFor g n s).step g m := by
  rw [runFor_add]
  cases hm : (runFor g n s).next? <;> simp only [runFor, hm]

theorem runFor_of_next?_eq_none (h : s.next? = none) (n : Nat) : runFor g n s = s := by
  cases n <;> simp only [runFor, h]

theorem course_of_next?_eq_none (h : s.next? = none) (n : Nat) : course g n s = [] := by
  cases n <;> simp only [course, h]

theorem runFor_of_next? {m : Move} (h : s.next? = some m) (n : Nat) :
    runFor g (n + 1) s = runFor g n (s.step g m) := by rw [runFor, h]

theorem course_of_next? {m : Move} (h : s.next? = some m) (n : Nat) :
    course g (n + 1) s = (s, m) :: course g n (s.step g m) := by rw [course, h]

/-- More moves than a session has weight change nothing. -/
theorem runFor_of_weight_le {n : Nat} (h : s.weight ≤ n) : runFor g n s = s.run g := by
  obtain ⟨k, rfl⟩ := Nat.exists_eq_add_of_le h
  rw [runFor_add]
  exact runFor_of_next?_eq_none (next?_run g s) k

theorem run_of_next?_eq_none (h : s.next? = none) : s.run g = s := runFor_of_next?_eq_none h _

theorem run_of_next? {m : Move} (h : s.next? = some m) : s.run g = (s.step g m).run g := by
  have hw := weight_step_lt g h
  obtain ⟨n, hn⟩ := Nat.exists_eq_succ_of_ne_zero (Nat.ne_zero_of_lt hw)
  rw [run, hn, runFor_of_next? h]
  exact runFor_of_weight_le (by omega)

/-- The sessions that a session comes to. -/
inductive Reachable (g : Setting) (s₀ : Session) : Session → Prop
  | refl : Reachable g s₀ s₀
  | step {s : Session} {m : Move} (h : Reachable g s₀ s) (hm : s.next? = some m) :
      Reachable g s₀ (s.step g m)

theorem Reachable.runFor (h : Reachable g s₀ s) (n : Nat) : Reachable g s₀ (runFor g n s) := by
  induction n generalizing s with
  | zero => exact h
  | succ n ih =>
    rw [Session.runFor]
    split
    · exact h
    · next m hm => exact ih (h.step hm)

theorem reachable_run (g : Setting) (s : Session) : Reachable g s (s.run g) :=
  Reachable.refl.runFor _

/-- What holds at the start and is kept by each move holds of all that a session comes to. -/
theorem Reachable.invariant {P : Session → Prop} (h : Reachable g s₀ s) (h₀ : P s₀)
    (hstep : ∀ s m s', P s → Effect g s m s' → P s') : P s := by
  induction h with
  | refl => exact h₀
  | step _ hm ih => exact hstep _ _ _ ih (effect_step hm)

end Session
end PageTitle
