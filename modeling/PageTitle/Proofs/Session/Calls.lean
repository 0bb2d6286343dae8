import PageTitle.Proofs.Session.Moves

/-!
# How often an observer calls

`run_bounded`: a session comes to rest, with at most one write for each call for a formatted title, at
most one of these for each call for what the renderer needs, and of the latter no more than one at
the start and one for each event that notifies. The last bound holds because only the first
notification after the start or an event can find a new title (`asking`): the drops and the
observer's own writes leave a title behind that is redundant.
-/

namespace PageTitle

def Sign.isConstants : Sign → Bool
  | .constants .. => true
  | _ => false

def Sign.isFormat : Sign → Bool
  | .format .. => true
  | _ => false

def Sign.isWrite : Sign → Bool
  | .write .. => true
  | _ => false

/-- Whether an event notifies the observer. -/
def Event.notifies (e : Event) : Bool := e.actions.any Action.notifies

namespace Session
variable {g : Setting} {s s' : Session} {m : Move} {total : Nat}

/-- Whether a notification that waits will find a new title. -/
def asking (s : Session) : Bool := 0 < s.queued && !s.observer.redundant

theorem not_asking_of_queued (h : s.queued = 0) : s.asking = false := by simp [asking, h]

theorem not_asking_of_redundant (h : s.observer.redundant = true) : s.asking = false := by
  simp [asking, h]

theorem countP_erase_add {c : Call} {l : List Call} (h : c ∈ l) (p : Call → Bool) :
    (l.erase c).countP p + (if p c then 1 else 0) = l.countP p := by
  rw [(List.perm_cons_erase h).countP_eq p, List.countP_cons]

theorem countP_erase_of_constants {c : Call} {l : List Call} (h : c ∈ l)
    (hk : c.query = .constants) :
    (l.erase c).countP Call.isConstants + 1 = l.countP Call.isConstants ∧
      (l.erase c).countP Call.isFormat = l.countP Call.isFormat := by
  have h₁ := countP_erase_add h Call.isConstants
  have h₂ := countP_erase_add h Call.isFormat
  simp only [Call.isFormat, Call.isConstants, hk] at h₁ h₂
  exact ⟨h₁, h₂⟩

theorem countP_erase_of_format {c : Call} {l : List Call} {r : FormatRequest} (h : c ∈ l)
    (hk : c.query = .format r) :
    (l.erase c).countP Call.isFormat + 1 = l.countP Call.isFormat ∧
      (l.erase c).countP Call.isConstants = l.countP Call.isConstants := by
  have h₁ := countP_erase_add h Call.isFormat
  have h₂ := countP_erase_add h Call.isConstants
  simp only [Call.isFormat, Call.isConstants, hk] at h₁ h₂
  exact ⟨h₁, h₂⟩

/-- Each write has had its answer, each call for a formatted title the answer to one for what the
renderer needs, and each of the latter the start or an event of `total`. -/
structure Accounted (total : Nat) (s : Session) : Prop where
  writes : s.signs.countP Sign.isWrite + s.calls.countP Call.isFormat ≤
    s.signs.countP Sign.isFormat
  formats : s.signs.countP Sign.isFormat + s.calls.countP Call.isConstants ≤
    s.signs.countP Sign.isConstants
  constants : s.signs.countP Sign.isConstants + s.asking.toNat + s.events.countP Event.notifies ≤
    total

theorem queued_actAll_eq_zero {l : List Action} (h : s.queued = 0)
    (ha : l.any Action.notifies = false) : (actAll g s l).queued = 0 :=
  actAll_induction (P := fun s' => s'.queued = 0) h fun s' a hl hs' => by
    rw [queued_act_of_not_notifies g s' a (by simpa using List.any_eq_false.mp ha a hl), hs']

/-- Of the actions of an event only those that notify make the observer ask. -/
theorem asking_actAll_le (h : s.queued = 0) (l : List Action) :
    (actAll g s l).asking.toNat ≤ (l.any Action.notifies).toNat := by
  cases ha : l.any Action.notifies with
  | true => exact Bool.toNat_le _
  | false =>
    exact Nat.le_of_eq (congrArg Bool.toNat (not_asking_of_queued (queued_actAll_eq_zero h ha)))

/-! Each thing that a move does keeps the counts in step. -/

namespace Accounted

theorem drop (hr : s.observer.redundant = true) (h : Accounted total s) :
    Accounted total s.dequeue := by
  refine ⟨h.writes, h.formats, ?_⟩
  have hc := h.constants
  rw [not_asking_of_redundant (s := s.dequeue) hr]
  exact Nat.le_trans (by simp [dequeue]) hc

theorem finish {c : Call} (hc : c ∈ s.calls) (h : Accounted total s)
    (hs : s'.signs = s.signs) (hl : s'.calls = s.calls.erase c) (ha : s'.asking = false)
    (he : s'.events = s.events) : Accounted total s' := by
  have h₁ := countP_erase_add hc Call.isFormat
  have h₂ := countP_erase_add hc Call.isConstants
  obtain ⟨hw, hf, hc⟩ := h
  refine ⟨?_, ?_, ?_⟩ <;> simp only [hs, hl, ha, he, Bool.toNat_false] <;> omega

theorem accept {o : Observer} (hq : 0 < s.queued) (hr : s.observer.redundant = false)
    (ho : o.redundant = true) (h : Accounted total s) :
    Accounted total (callConstants g { s.dequeue with observer := o }) := by
  have ha : s.asking = true := by simp [asking, hq, hr]
  have ha' : (callConstants g { s.dequeue with observer := o }).asking = false :=
    not_asking_of_redundant ho
  obtain ⟨hw, hf, hc⟩ := h
  rw [ha, Bool.toNat_true] at hc
  refine ⟨?_, ?_, ?_⟩
  · simpa [callConstants, dequeue, List.countP_append, Sign.isWrite, Sign.isFormat, Call.isFormat,
      Call.isConstants] using hw
  · simp [callConstants, dequeue, List.countP_append, Sign.isConstants, Sign.isFormat,
      Call.isConstants]
    omega
  · -- the new call takes the place of the notification that was going to ask for it
    rw [ha']
    simp [callConstants, dequeue, List.countP_append, Sign.isConstants]
    omega

theorem ask {c : Call} (hq : s.queued = 0) (hc : c ∈ s.calls) (hk : c.query = .constants)
    (o : Observer) (r : FormatRequest) (h : Accounted total s) :
    Accounted total (callFormat g { s.withoutCall c with observer := o } r) := by
  obtain ⟨h₁, h₂⟩ := countP_erase_of_constants hc hk
  have ha : (callFormat g { s.withoutCall c with observer := o } r).asking = false :=
    not_asking_of_queued hq
  obtain ⟨hw, hf, hc⟩ := h
  rw [not_asking_of_queued hq] at hc
  refine ⟨?_, ?_, ?_⟩
  · simp [callFormat, withoutCall, List.countP_append, Sign.isWrite, Sign.isFormat, Call.isFormat,
      Call.isConstants] at h₂ ⊢
    omega
  · -- the call for the title takes the place of the one that had to be answered first
    simp [callFormat, withoutCall, List.countP_append, Sign.isConstants, Sign.isFormat,
      Call.isConstants] at h₁ ⊢
    omega
  · rw [ha]
    simpa [callFormat, withoutCall, List.countP_append, Sign.isConstants] using hc

theorem write {c : Call} {r : FormatRequest} {o : Observer} (hq : s.queued = 0) (hc : c ∈ s.calls)
    (hk : c.query = .format r) (ho : o.redundant = true) (k : Nat) (t : Text) (time : Nat)
    (h : Accounted total s) :
    Accounted total (notify k { s.withoutCall c with
      observer := o, signs := s.signs ++ [.write t time] }) := by
  obtain ⟨h₁, h₂⟩ := countP_erase_of_format hc hk
  have ha : (notify k { s.withoutCall c with
      observer := o, signs := s.signs ++ [.write t time] }).asking = false :=
    not_asking_of_redundant (by rwa [notify_observer])
  obtain ⟨hw, hf, hc⟩ := h
  rw [not_asking_of_queued hq] at hc
  refine ⟨?_, ?_, ?_⟩
  · -- the write takes the place of the call that brought its title
    simp [withoutCall, List.countP_append, Sign.isWrite, Sign.isFormat]
    omega
  · simp [withoutCall, List.countP_append, Sign.isConstants, Sign.isFormat]
    omega
  · rw [ha]
    simpa [withoutCall, List.countP_append, Sign.isConstants] using hc

theorem event {e : Event} {l : List Event} (hq : s.queued = 0) (he : s.events = e :: l)
    (h : Accounted total s) : Accounted total (close (actAll g (s.withoutEvent e) e.actions)) := by
  have ha := asking_actAll_le (g := g) (s := s.withoutEvent e) hq e.actions
  have hs : (actAll g (s.withoutEvent e) e.actions).signs = s.signs := actAll_signs ..
  have hl : (actAll g (s.withoutEvent e) e.actions).calls = s.calls := actAll_calls ..
  have hv : (actAll g (s.withoutEvent e) e.actions).events = l := by
    rw [actAll_events, withoutEvent, he, List.tail_cons]
  have hn : (if e.notifies then 1 else 0) = (e.actions.any Action.notifies).toNat := by
    unfold Event.notifies
    cases e.actions.any Action.notifies <;> rfl
  have ha' : (close (actAll g (s.withoutEvent e) e.actions)).asking =
      (actAll g (s.withoutEvent e) e.actions).asking := rfl
  obtain ⟨hw, hf, hc⟩ := h
  rw [not_asking_of_queued hq, he, List.countP_cons, hn, Bool.toNat_false] at hc
  refine ⟨?_, ?_, ?_⟩
  · simpa only [close, hs, hl] using hw
  · simpa only [close, hs, hl] using hf
  · -- an event that notifies makes up for the call that its notification may lead to
    rw [ha']
    simp only [close, hs, hv]
    omega

theorem step (h : Accounted total s) (he : Effect g s m s') : Accounted total s' := by
  cases he with
  | drop hq hr => exact h.drop hr
  | accept hq hr => exact h.accept hq hr (Observer.redundant_pending s.observer)
  | ask hq hc hk => exact h.ask hq hc hk _ _
  | write hq hc hk => exact h.write hq hc hk (by simp [Observer.redundant]) ..
  | ignore hq hc | giveUp hq hc | die hq hc | skip hq hc | keep hq hc =>
    exact h.finish hc rfl rfl (not_asking_of_queued hq) rfl
  | event hq he => exact h.event hq he

end Accounted

/-! ### Writes -/

theorem writes_act (g : Setting) (s : Session) (a : Action) :
    (act g s a).observer.page.writes = s.observer.page.writes := by
  rw [act_observer]
  cases a.written? s.observer.page.title <;> rfl

theorem writes_actAll (g : Setting) (s : Session) (l : List Action) :
    (actAll g s l).observer.page.writes = s.observer.page.writes :=
  actAll_induction (P := fun s' => s'.observer.page.writes = s.observer.page.writes) rfl
    fun s' a _ h => (writes_act g s' a).trans h

/-- The page counts the writes of the observer and no others. -/
theorem writes_effect (he : Effect g s m s') {n : Nat}
    (h : s.observer.page.writes = n + s.signs.countP Sign.isWrite) :
    s'.observer.page.writes = n + s'.signs.countP Sign.isWrite := by
  cases he with
  | drop | ignore | giveUp | die | skip | keep => exact h
  | accept | ask =>
    simpa [callConstants, callFormat, dequeue, withoutCall, List.countP_append, Sign.isWrite] using h
  | write =>
    simp [withoutCall, List.countP_append, Sign.isWrite, Page.writeTitle]
    omega
  | event =>
    simp only [close, writes_actAll, actAll_signs]
    exact h

/-- After a write the page shows what the observer read back. -/
theorem shown_of_write (he : Effect g s m s')
    (h : s'.observer.page.writes ≠ s.observer.page.writes) :
    s'.observer.shown = some s'.observer.page.title := by
  cases he with
  | drop | accept | ask | ignore | giveUp | die | skip | keep => exact absurd rfl h
  | write => rw [notify_observer]
  | event => exact absurd (writes_actAll ..) h

/-! ### The moves after a write -/

/-- Until the next event, an observer that has no new title calls for nothing that the renderer
needs. -/
theorem quiet_step (h : s.asking = false) (he : Effect g s m s') (hm : ∀ e, m ≠ .event e) :
    s'.asking = false ∧ s'.signs.countP Sign.isConstants = s.signs.countP Sign.isConstants := by
  cases he with
  | drop hq hr => exact ⟨not_asking_of_redundant hr, rfl⟩
  | accept hq hr => simp [asking, hq, hr] at h
  | ask hq =>
    refine ⟨not_asking_of_queued hq, ?_⟩
    simp [callFormat, withoutCall, List.countP_append, Sign.isConstants]
  | ignore hq | giveUp hq | die hq | skip hq | keep hq => exact ⟨not_asking_of_queued hq, rfl⟩
  | write hq =>
    refine ⟨not_asking_of_redundant (by simp [Observer.redundant]), ?_⟩
    simp [withoutCall, List.countP_append, Sign.isConstants]
  | event => exact absurd rfl (hm _)

theorem quiet_runFor (h : s.asking = false) (k : Nat)
    (hk : ∀ i < k, ∀ e, (runFor g i s).next? ≠ some (.event e)) :
    (runFor g k s).asking = false ∧
      (runFor g k s).signs.countP Sign.isConstants = s.signs.countP Sign.isConstants := by
  induction k with
  | zero => exact ⟨h, rfl⟩
  | succ k ih =>
    obtain ⟨ha, hs⟩ := ih fun i hi => hk i (Nat.lt_succ_of_lt hi)
    rw [runFor_succ]
    split
    · exact ⟨ha, hs⟩
    · next m hm =>
      obtain ⟨ha', hs'⟩ := quiet_step ha (effect_step hm) fun e he =>
        hk k (Nat.lt_succ_self k) e (he ▸ hm)
      exact ⟨ha', hs'.trans hs⟩

/-! ### Whole sessions -/

theorem accounted_ofScript (p : Page) (files : FileTree) (events : List Event) :
    Accounted (1 + events.countP Event.notifies) (ofScript { page := p } files events) := by
  refine ⟨by simp [ofScript, start], by simp [ofScript, start], ?_⟩
  have := Bool.toNat_le (ofScript { page := p } files events).asking
  simp only [ofScript, start, List.countP_nil] at this ⊢
  omega

/-- A session with a script ends with nothing left to happen, and its calls and writes are bounded
by the events that notify. No notification of the observer's own writes leads to a call: from a
write to the next event there is no call for what the renderer needs. -/
theorem run_bounded (g : Setting) (p : Page) (files : FileTree) (events : List Event) :
    let s := ofScript { page := p } files events
    let f := s.run g
    (f.queued = 0 ∧ f.calls = [] ∧ f.events = [] ∧ f.isOpen = false) ∧
      f.observer.page.writes = p.writes + f.signs.countP Sign.isWrite ∧
      f.signs.countP Sign.isWrite ≤ f.signs.countP Sign.isFormat ∧
      f.signs.countP Sign.isFormat ≤ f.signs.countP Sign.isConstants ∧
      f.signs.countP Sign.isConstants ≤ 1 + events.countP Event.notifies ∧
      ∀ n k, (runFor g n s).observer.page.writes < (runFor g (n + 1) s).observer.page.writes →
        (∀ i < k, ∀ e, (runFor g (n + 1 + i) s).next? ≠ some (.event e)) →
        (runFor g (n + 1 + k) s).signs.countP Sign.isConstants =
          (runFor g (n + 1) s).signs.countP Sign.isConstants := by
  intro s f
  have ha : Accounted (1 + events.countP Event.notifies) f :=
    (reachable_run g s).invariant (accounted_ofScript p files events) fun _ _ _ => Accounted.step
  have ho : f.isOpen = !f.events.isEmpty :=
    (reachable_run g s).invariant (P := fun s => s.isOpen = !s.events.isEmpty) rfl
      fun _ _ _ h he => isOpen_effect he h
  have hp : f.observer.page.writes = p.writes + f.signs.countP Sign.isWrite :=
    (reachable_run g s).invariant
      (P := fun s => s.observer.page.writes = p.writes + s.signs.countP Sign.isWrite) rfl
      fun _ _ _ h he => writes_effect he h
  obtain ⟨hq, hl, he⟩ := next?_eq_none_iff.mp (next?_run g s)
  obtain ⟨hw, hf, hc⟩ := ha
  refine ⟨⟨hq, hl, he, by rw [ho, he]; rfl⟩, hp, by omega, by omega, by omega, fun n k h hk => ?_⟩
  rw [runFor_add]
  refine (quiet_runFor ?_ k fun i hi e => ?_).2
  · rw [runFor_succ] at h ⊢
    split at h
    · exact absurd h (Nat.lt_irrefl _)
    · next m hm =>
      have := shown_of_write (effect_step hm) (Nat.ne_of_gt h)
      exact not_asking_of_redundant (by simp [Observer.redundant, this])
  · rw [← runFor_add]
    exact hk i hi e

end Session
end PageTitle
