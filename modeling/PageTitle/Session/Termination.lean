import PageTitle.Session.Run

/-!
# Sessions end

Each move of a session leaves it with less weight (`weight_step_lt`), so that `run` comes to a session
in which nothing is left to happen (`next?_run`). The reason is that a title which the observer
wrote, or for which it is about to make a request, is redundant to it: of the notifications that
wait, only the first can lead to a call, and that of its own writing leads to none.
-/

namespace PageTitle
namespace Observer

theorem notice_of_redundant {o : Observer} (h : o.redundant = true) : o.notice = (false, o) := by
  simp [notice, h]

theorem notice_of_not_redundant {o : Observer} (h : o.redundant = false) :
    o.notice = (true, { o with pending := some o.page.title, formatted := none }) := by
  simp [notice, h]

theorem redundant_pending (o : Observer) :
    redundant { o with pending := some o.page.title, formatted := none } = true := by
  simp [redundant]

theorem redundant_of_written {o o' : Observer} {u : Option Update}
    (h : o.receive u = (.written, o')) : o'.redundant = true := by
  cases u with
  | none => simp [receive] at h
  | some u =>
    simp only [receive] at h
    split at h
    · simp at h
    · simp only [Prod.mk.injEq, true_and] at h
      subst h
      simp [redundant]

end Observer
namespace Session

/-! ### Calls in flight -/

theorem firstDue_mem {l : List Call} {c : Call} (h : firstDue l = some c) : c ∈ l := by
  induction l generalizing c with
  | nil => simp [firstDue] at h
  | cons d r ih =>
    simp only [firstDue] at h
    split at h
    · simp_all
    · rename_i e he
      split at h
      · simp only [Option.some.injEq] at h
        subst h
        exact List.mem_cons_of_mem _ (ih he)
      · simp_all

theorem callsWeight_erase {l : List Call} {c : Call} (h : c ∈ l) :
    callsWeight (l.erase c) + callWeight c = callsWeight l := by
  induction l with
  | nil => simp at h
  | cons d r ih =>
    by_cases hd : d = c
    · subst hd; simp [callsWeight]; omega
    · rw [List.erase_cons_tail (by simpa using hd)]
      have := ih (by simpa [Ne.symm hd] using h)
      simp only [callsWeight]; omega

/-! ### Weights -/

/-- What a session has left when nothing waits in the queue. -/
def rest (s : Session) : Nat := eventsWeight s.events + callsWeight s.calls

theorem weight_of_queued_eq_zero {s : Session} (h : s.queued = 0) : s.weight = s.rest := by
  simp [weight, rest, h]

theorem weight_notice (g : Setting) (s : Session) (h : s.queued > 0) :
    (notice g s.dequeue).weight < s.weight := by
  unfold notice
  cases hr : s.observer.redundant with
  | true =>
    rw [Observer.notice_of_redundant (o := s.dequeue.observer) hr]
    simp [weight, hr, dequeue]
    omega
  | false =>
    rw [Observer.notice_of_not_redundant (o := s.dequeue.observer) hr]
    simp [weight, callConstants, hr, callWeight, callsWeight, Observer.redundant_pending, h, dequeue]
    omega

theorem weight_finish (g : Setting) (s : Session) (c : Call) (h : s.queued = 0) :
    (finish g s c).weight < s.rest + callWeight c := by
  unfold finish
  split
  · rename_i hq _
    unfold dispatch Observer.request
    cases hp : s.observer.pending with
    | none => simp [weight, rest, h, callWeight, hq]
    | some t => simp [callFormat, weight, rest, h, callWeight, callsWeight, hq]; omega
  · rename_i hq _
    simp [weight, rest, h, callWeight, hq]
  · rename_i r hq _
    split
    · unfold receive
      split
      · rename_i o u o' ho
        simp only [notify]
        split <;> simp [weight, rest, h, callWeight, hq, Observer.redundant_of_written ho]
      · simp [weight, rest, h, callWeight, hq]
    · simp [weight, rest, h, callWeight, hq]
  · have : 0 < callWeight c := by unfold callWeight; split <;> omega
    simp [weight, rest, h]; omega

/-! ### Actions -/

theorem events_act (g : Setting) (s : Session) (a : Action) : (act g s a).events = s.events := by
  cases a <;> simp [act, setTitle, notify] <;> split <;> rfl

theorem calls_act (g : Setting) (s : Session) (a : Action) : (act g s a).calls = s.calls := by
  cases a <;> simp [act, setTitle, notify] <;> split <;> rfl

theorem queued_act (g : Setting) (s : Session) (a : Action) :
    (act g s a).queued ≤ s.queued + 1 := by
  cases a <;> simp [act, setTitle, notify] <;> split <;> simp

theorem actAll_events (g : Setting) (s : Session) (l : List Action) :
    (actAll g s l).events = s.events := by
  induction l generalizing s with
  | nil => rfl
  | cons a l ih => exact (ih (act g s a)).trans (events_act g s a)

theorem actAll_calls (g : Setting) (s : Session) (l : List Action) :
    (actAll g s l).calls = s.calls := by
  induction l generalizing s with
  | nil => rfl
  | cons a l ih => exact (ih (act g s a)).trans (calls_act g s a)

theorem actAll_queued (g : Setting) (s : Session) (l : List Action) :
    (actAll g s l).queued ≤ s.queued + l.length := by
  induction l generalizing s with
  | nil => exact Nat.le_refl _
  | cons a l ih =>
    have := ih (act g s a)
    have := queued_act g s a
    simp only [actAll, List.foldl_cons, List.length_cons] at *
    omega

theorem weight_le (s : Session) : s.weight ≤ s.rest + s.queued + (if s.queued > 0 then 3 else 0) := by
  unfold weight rest
  split <;> split <;> simp_all

theorem weight_event (g : Setting) (s : Session) (e : Event) (r : List Event)
    (he : s.events = e :: r) (h : s.queued = 0) : (s.step g (.event e)).weight < s.weight := by
  rw [weight_of_queued_eq_zero h]
  refine Nat.lt_of_le_of_lt (weight_le _) ?_
  have h1 := actAll_events g (s.withoutEvent e) e.actions
  have h2 := actAll_calls g (s.withoutEvent e) e.actions
  have h3 := actAll_queued g (s.withoutEvent e) e.actions
  simp only [step, close, rest, h1, h2] at *
  simp only [withoutEvent, he, List.tail_cons, eventsWeight, h] at *
  split <;> omega

/-- Each move leaves less to happen. -/
theorem weight_step_lt (g : Setting) {s : Session} {m : Move} (h : s.next? = some m) :
    (s.step g m).weight < s.weight := by
  unfold next? at h
  split at h
  · rename_i hq
    cases h
    exact weight_notice g s hq
  · rename_i hq
    have hq : s.queued = 0 := by omega
    have finished (c : Call) (hc : firstDue s.calls = some c) :
        (s.step g (.finish c)).weight < s.weight := by
      have hw := weight_finish g (s.withoutCall c) c hq
      have hs := callsWeight_erase (firstDue_mem hc)
      rw [weight_of_queued_eq_zero hq]
      simp only [step]
      simp only [rest, withoutCall] at hw ⊢
      omega
    split at h
    · cases h
    · rename_i c hc he
      cases h
      exact finished c hc
    · rename_i e r _ he
      cases h
      exact weight_event g s e r he hq
    · rename_i c e r hc he
      split at h <;> cases h
      · exact finished c hc
      · exact weight_event g s e r he hq

/-- A session comes to its end. -/
theorem next?_run (g : Setting) (s : Session) : (s.run g).next? = none := by
  suffices h : ∀ n s, weight s ≤ n → (runFor g n s).next? = none from h _ s (Nat.le_refl _)
  intro n
  induction n with
  | zero =>
    intro s h
    simp only [runFor]
    cases hm : s.next? with
    | none => rfl
    | some m => have := weight_step_lt g hm; omega
  | succ n ih =>
    intro s h
    simp only [runFor]
    cases hm : s.next? with
    | none => exact hm
    | some m => exact ih _ (by have := weight_step_lt g hm; omega)

end Session
end PageTitle
