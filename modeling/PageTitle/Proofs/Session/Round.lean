import PageTitle.Proofs.Session.Moves

/-!
# Sessions of one round

`run_observer_eq_cycle`: where the queue holds one notification and nothing else is to happen, a
session with answered calls comes to rest with the observer that one round leaves
(`Observer.cycle`). What the round writes is noticed once more, and found redundant.
-/

namespace PageTitle
namespace Observer
variable {o : Observer} {fields : List Text} {render : FormatRequest → Option Update}

theorem cycle_of_redundant (h : o.redundant = true) : o.cycle fields render = (none, o) := by
  rw [cycle, notice_of_redundant h]

theorem cycle_of_not_redundant (h : o.redundant = false) :
    (o.cycle fields render).2 = (receive { o with pending := none, formatted := none }
      (render ⟨o.page.location.copyFields fields, o.page.href, o.page.title, o.suffix⟩)).2 := by
  rw [cycle, notice_of_not_redundant h]
  rfl

end Observer

namespace Session
variable {g : Setting} {s : Session} {c : Call} {t : Text} {r : FormatRequest} {o : Options}

/-- Without events the files stay as they are and the queue as open as it is. -/
theorem run_of_no_events (g : Setting) (h : s.events = []) :
    (s.run g).events = [] ∧ (s.run g).files = s.files ∧ (s.run g).isOpen = s.isOpen := by
  refine (reachable_run g s).invariant
    (P := fun s' => s'.events = [] ∧ s'.files = s.files ∧ s'.isOpen = s.isOpen) ⟨h, rfl, rfl⟩ ?_
  intro s' m s'' h he
  cases he with
  | drop | accept | ask | ignore | giveUp | die | skip | keep => exact h
  | write => simpa [withoutCall] using h
  | event _ he => rw [h.1] at he; cases he

theorem next?_of_calls (hq : s.queued = 0) (hc : s.calls = [c]) (he : s.events = []) :
    s.next? = some (.finish c) := by
  simp [next?, hq, hc, he, firstDue]

/-! ### Steps of a round -/

theorem step_notice_of_redundant (h : s.observer.redundant = true) :
    s.step g .notice = s.dequeue := by
  simp only [step, notice, Observer.notice_of_redundant (o := s.dequeue.observer) h]

theorem step_notice_of_not_redundant (h : s.observer.redundant = false) :
    s.step g .notice = callConstants g { s.dequeue with
      observer := { s.observer with pending := some s.observer.page.title, formatted := none } } := by
  simp only [step, notice, Observer.notice_of_not_redundant (o := s.dequeue.observer) h]
  rfl

theorem step_finish_constants (hk : c.query = .constants) (he : c.ending = .answered)
    (hp : s.observer.pending = some t) :
    s.step g (.finish c) = callFormat g { s.withoutCall c with
        observer := { s.observer with pending := none } }
      ⟨s.observer.page.location.copyFields c.fields, s.observer.page.href, t, s.observer.suffix⟩ := by
  simp only [step, finish, hk, he, dispatch, Observer.request, withoutCall, hp, Option.map_some]

theorem step_finish_format (hk : c.query = .format r) (he : c.ending = .answered)
    (ho : g.store.load s.files = .ok o) :
    s.step g (.finish c) = receive g (s.withoutCall c) (Service.format o r) := by
  simp only [step, finish, hk, he, withoutCall, ho]

/-! ### The rest of a session -/

theorem run_of_redundant (hc : s.calls = []) (he : s.events = []) (hr : s.observer.redundant = true)
    (hq : s.queued ≤ 1) : (s.run g).observer = s.observer := by
  rcases Nat.le_one_iff_eq_zero_or_eq_one.mp hq with hq | hq
  · rw [run_of_next?_eq_none (next?_eq_none_iff.mpr ⟨hq, hc, he⟩)]
  · have hn : s.dequeue.next? = none :=
      next?_eq_none_iff.mpr ⟨by simp [dequeue, hq], hc, he⟩
    rw [run_of_next? (next?_eq_notice_iff.mpr (by omega)), step_notice_of_redundant hr,
      run_of_next?_eq_none hn]
    rfl

theorem withoutCall_calls (hc : s.calls = [c]) : (s.withoutCall c).calls = [] := by
  simp [withoutCall, hc]

theorem run_of_format (hq : s.queued = 0) (hc : s.calls = [c]) (he : s.events = [])
    (hk : c.query = .format r) (ha : c.ending = .answered) (ho : g.store.load s.files = .ok o) :
    (s.run g).observer = (s.observer.receive (Service.format o r)).2 := by
  rw [run_of_next? (next?_of_calls hq hc he), step_finish_format hk ha ho]
  have hc' := withoutCall_calls hc
  unfold receive
  split
  · next u o' hu hr =>
    rw [hu] at hr
    rw [run_of_redundant (by rw [notify_calls]; exact hc') (by rw [notify_events]; exact he),
      notify_observer]
    · rw [hu]
      exact congrArg Prod.snd hr.symm
    · rw [notify_observer]
      exact Observer.redundant_of_written hr
    · unfold notify
      split <;> simp [withoutCall, hq]
  · next receipt o' hr _ =>
    have hn : next? { s.withoutCall c with observer := o' } = none :=
      next?_eq_none_iff.mpr ⟨hq, hc', he⟩
    rw [run_of_next?_eq_none hn]
    exact congrArg Prod.snd hr.symm

theorem run_of_constants (hf : ∀ n, (g.formatPlan n).ending = .answered) (hq : s.queued = 0)
    (hc : s.calls = [c]) (he : s.events = []) (hk : c.query = .constants)
    (ha : c.ending = .answered) (hp : s.observer.pending = some t)
    (ho : g.store.load s.files = .ok o) :
    (s.run g).observer = (Observer.receive { s.observer with pending := none } (Service.format o
      ⟨s.observer.page.location.copyFields c.fields, s.observer.page.href, t,
        s.observer.suffix⟩)).2 := by
  rw [run_of_next? (next?_of_calls hq hc he), step_finish_constants hk ha hp]
  exact run_of_format hq (congrArg (· ++ [_]) (withoutCall_calls hc)) he rfl (hf _) ho

/-- A session in which only a notification waits makes one round. -/
theorem run_observer_eq_cycle (hc : ∀ n, (g.constantsPlan n).ending = .answered)
    (hf : ∀ n, (g.formatPlan n).ending = .answered) (hq : s.queued = 1) (hs : s.calls = [])
    (he : s.events = []) (ho : g.store.load s.files = .ok o) :
    (s.run g).observer =
      (s.observer.cycle (g.constantsPlan s.constantsCalls).fields (Service.format o)).2 := by
  cases hr : s.observer.redundant with
  | true =>
    rw [run_of_redundant hs he hr (Nat.le_of_eq hq), Observer.cycle_of_redundant hr]
  | false =>
    have hq' : s.dequeue.queued = 0 := by simp [dequeue, hq]
    rw [run_of_next? (next?_eq_notice_iff.mpr (by omega)), step_notice_of_not_redundant hr,
      Observer.cycle_of_not_redundant hr]
    exact run_of_constants (s := callConstants g { s.dequeue with observer := _ }) hf hq'
      (congrArg (· ++ [_]) hs) he rfl (hc _) rfl ho

end Session
end PageTitle
