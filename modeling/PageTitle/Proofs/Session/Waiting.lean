import PageTitle.Proofs.Session.Calls

/-!
# Titles that wait for their request

`pending_runFor_iff`: a title waits just if it is the one accepted last and no call for what the
renderer needs was answered or failed since. Only the order of these moves counts. There is one title
that waits and there may be several calls, started for other titles, and whichever ends first takes the
title along or has it forgotten. Moves are counted from zero; move `n` is made in the session
`runFor g n s`.
-/

namespace PageTitle

/-- Whether a move ends a call for what the renderer needs, and in this way. -/
def Move.settles (e : Ending) : Move → Bool
  | .finish c => c.isConstants && c.ending = e
  | .notice | .event _ => false

namespace Session
variable {g : Setting} {s s' : Session} {m : Move} {c : Call} {d : Ending} {t : Text}
  {n i j a : Nat}

/-- Whether the next move ends a call for what the renderer needs, and in this way. -/
def settles (e : Ending) (s : Session) : Bool := s.next?.any (Move.settles e)

/-- Move `i` accepts the title `t` and starts the call `c` for what the renderer needs. -/
structure Accepts (g : Setting) (s : Session) (i : Nat) (t : Text) (c : Call) : Prop where
  asking : (runFor g i s).asking = true
  title : (runFor g i s).observer.page.title = t
  query : c.query = .constants
  number : c.number = (runFor g i s).constantsCalls
  called : (runFor g (i + 1) s).calls = (runFor g i s).calls ++ [c]

/-- Move `i` is the last of the first `n` that accepts a title. -/
structure LastAccepted (g : Setting) (s : Session) (n i : Nat) : Prop where
  before : i < n
  asking : (runFor g i s).asking = true
  later : ∀ j < n, i < j → (runFor g j s).asking = false

/-- Move `n` starts a call for the formatted form of the title `t`. -/
def Sends (g : Setting) (s : Session) (n : Nat) (t : Text) : Prop :=
  ∃ call previous time,
    (runFor g (n + 1) s).signs = (runFor g n s).signs ++ [.format call t previous time]

/-- Move `i` accepts a title that is sent before another is accepted. -/
def Leads (g : Setting) (s : Session) (i : Nat) : Prop :=
  ∃ k, LastAccepted g s k i ∧ Sends g s k (runFor g i s).observer.page.title

/-! ### The next move -/

theorem asking_iff : s.asking = true ↔ s.next? = some .notice ∧ s.observer.redundant = false := by
  simp [asking, next?_eq_notice_iff]

theorem settles_iff : s.settles d = true ↔
    ∃ c, s.next? = some (.finish c) ∧ c.query = .constants ∧ c.ending = d := by
  unfold settles
  cases hm : s.next? with
  | none => simp
  | some m =>
    cases m with
    | notice | event => simp [Move.settles]
    | finish c => cases hk : c.query <;> simp [Move.settles, Call.isConstants, hk]

theorem asking_of_next?_eq_none (h : s.next? = none) : s.asking = false :=
  not_asking_of_queued (next?_eq_none_iff.mp h).1

theorem settles_of_next?_eq_none (h : s.next? = none) : s.settles d = false := by
  rw [settles, h, Option.any_none]

theorem settles_of_next? (h : s.next? = some m) : s.settles d = m.settles d := by
  rw [settles, h, Option.any_some]

theorem settles_finish_constants (h : s.next? = some (.finish c)) (hk : c.query = .constants) :
    s.settles d = decide (c.ending = d) := by
  rw [settles_of_next? h, Move.settles, Call.isConstants, hk, Bool.true_and]

theorem settles_finish_format {r : FormatRequest} (h : s.next? = some (.finish c))
    (hk : c.query = .format r) : s.settles d = false := by
  rw [settles_of_next? h, Move.settles, Call.isConstants, hk, Bool.false_and]

/-- A session makes no more moves than it has weight. -/
theorem lt_weight_or_next?_eq_none (g : Setting) (s : Session) (n : Nat) :
    n < s.weight ∨ (runFor g n s).next? = none := by
  refine (Nat.lt_or_ge n s.weight).imp_right fun h => ?_
  rw [runFor_of_weight_le h]
  exact next?_run g s

theorem asking_eq_false_of_lt_weight
    (h : ∀ j < s.weight, i < j → (runFor g j s).asking = false) (j : Nat) (hj : i < j) :
    (runFor g j s).asking = false :=
  (lt_weight_or_next?_eq_none g s j).elim (h j · hj) asking_of_next?_eq_none

theorem settles_eq_false_of_lt_weight
    (h : ∀ j < s.weight, (runFor g j s).settles d = false) (j : Nat) :
    (runFor g j s).settles d = false :=
  (lt_weight_or_next?_eq_none g s j).elim (h j) settles_of_next?_eq_none

/-! ### What a move does to the title that waits -/

/-- Of the observer, the page's actions change the page alone. -/
theorem observer_actAll (g : Setting) (s : Session) (l : List Action) :
    ∃ p, (actAll g s l).observer = { s.observer with page := p } := by
  refine actAll_induction (P := fun s' => ∃ p, s'.observer = { s.observer with page := p })
    ⟨_, rfl⟩ ?_
  rintro s' a - ⟨p, h⟩
  rw [act_observer, h]
  cases a.written? p.title with
  | none => exact ⟨p, rfl⟩
  | some t => exact ⟨p.setTitle t, rfl⟩

/-- A title that is accepted waits, and a call for what the renderer needs that is answered or failed
leaves none behind. -/
theorem pending_effect (hm : s.next? = some m) (he : Effect g s m s') :
    s'.observer.pending =
      if s.asking then some s.observer.page.title
      else if s.settles .answered || s.settles .failed then none
      else s.observer.pending := by
  cases he with
  | drop hq hr =>
    rw [not_asking_of_redundant hr, settles_of_next? hm, settles_of_next? hm]
    rfl
  | accept hq hr =>
    rw [asking_iff.mpr ⟨hm, hr⟩]
    rfl
  | ask hq _ hk he | giveUp hq _ hk he | die hq _ hk he =>
    rw [not_asking_of_queued hq, settles_finish_constants hm hk, settles_finish_constants hm hk, he]
    rfl
  | ignore hq _ hk he hp =>
    rw [not_asking_of_queued hq, settles_finish_constants hm hk, he]
    exact hp
  | skip hq _ hk | keep hq _ hk =>
    rw [not_asking_of_queued hq, settles_finish_format hm hk, settles_finish_format hm hk]
    rfl
  | write hq _ hk =>
    rw [not_asking_of_queued hq, settles_finish_format hm hk, settles_finish_format hm hk,
      notify_observer]
    rfl
  | @event e l hq =>
    rw [not_asking_of_queued hq, settles_of_next? hm, settles_of_next? hm]
    obtain ⟨p, h⟩ := observer_actAll g (s.withoutEvent e) e.actions
    simp only [close, h]
    rfl

theorem pending_runFor_succ : (runFor g (n + 1) s).observer.pending =
    if (runFor g n s).asking then some (runFor g n s).observer.page.title
    else if (runFor g n s).settles .answered || (runFor g n s).settles .failed then none
    else (runFor g n s).observer.pending := by
  rw [runFor_succ]
  cases hm : (runFor g n s).next? with
  | none =>
    rw [asking_of_next?_eq_none hm, settles_of_next?_eq_none hm, settles_of_next?_eq_none hm]
    rfl
  | some m => exact pending_effect hm (effect_step hm)

/-- A call for a formatted title is started just when a call for what the renderer needs is answered
and a title waits. -/
theorem format_effect_iff (hm : s.next? = some m) (he : Effect g s m s') :
    (∃ call previous time, s'.signs = s.signs ++ [.format call t previous time]) ↔
      s.settles .answered = true ∧ s.observer.pending = some t := by
  cases he with
  | drop => simp [dequeue, settles_of_next? hm, Move.settles]
  | accept => simp [callConstants, dequeue, settles_of_next? hm, Move.settles]
  | ask hq _ hk he hp =>
    simp [callFormat, withoutCall, settles_finish_constants hm hk, he, hp]
  | ignore _ _ _ _ hp => simp [withoutCall, hp]
  | giveUp _ _ hk he | die _ _ hk he =>
    simp [withoutCall, settles_finish_constants hm hk, he]
  | skip _ _ hk | keep _ _ hk | write _ _ hk =>
    simp [withoutCall, settles_finish_format hm hk]
  | event => simp [close, actAll_signs, withoutEvent, settles_of_next? hm, Move.settles]

theorem sends_iff : Sends g s n t ↔
    (runFor g n s).settles .answered = true ∧ (runFor g n s).observer.pending = some t := by
  unfold Sends
  rw [runFor_succ]
  cases hm : (runFor g n s).next? with
  | none => simp [settles_of_next?_eq_none hm]
  | some m => exact format_effect_iff hm (effect_step hm)

/-! ### The title that was accepted last -/

theorem LastAccepted.le (h : LastAccepted g s n i) (hj : j < n)
    (ha : (runFor g j s).asking = true) : j ≤ i := by
  refine Nat.le_of_not_lt fun hij => ?_
  have := h.later j hj hij
  rw [ha] at this
  cases this

theorem LastAccepted.unique (h : LastAccepted g s n i) (h' : LastAccepted g s n j) : i = j :=
  Nat.le_antisymm (h'.le h.before h.asking) (h.le h'.before h'.asking)

theorem lastAccepted_succ_iff : LastAccepted g s (n + 1) i ↔
    (i = n ∧ (runFor g n s).asking = true) ∨
      (LastAccepted g s n i ∧ (runFor g n s).asking = false) := by
  constructor
  · intro h
    rcases Nat.lt_succ_iff_lt_or_eq.mp h.before with hi | rfl
    · exact .inr ⟨⟨hi, h.asking, fun j hj => h.later j (by omega)⟩, h.later n (by omega) hi⟩
    · exact .inl ⟨rfl, h.asking⟩
  · rintro (⟨rfl, ha⟩ | ⟨h, ha⟩)
    · exact ⟨Nat.lt_succ_self i, ha, fun j hj hij => by omega⟩
    · refine ⟨Nat.lt_succ_of_lt h.before, h.asking, fun j hj hij => ?_⟩
      rcases Nat.lt_succ_iff_lt_or_eq.mp hj with hj | rfl
      · exact h.later j hj hij
      · exact ha

/-- A title waits just if it was accepted last and no call for what the renderer needs was answered or
failed since. -/
theorem pending_runFor_iff (h : s.observer.pending = none) :
    (runFor g n s).observer.pending = some t ↔
      ∃ i, LastAccepted g s n i ∧ (runFor g i s).observer.page.title = t ∧
        ∀ j < n, i < j →
          (runFor g j s).settles .answered = false ∧ (runFor g j s).settles .failed = false := by
  induction n generalizing t with
  | zero =>
    rw [runFor, h]
    refine iff_of_false (Option.some_ne_none t).symm ?_
    rintro ⟨i, hi, -⟩
    exact Nat.not_lt_zero i hi.before
  | succ n ih =>
    rw [pending_runFor_succ]
    simp only [lastAccepted_succ_iff]
    cases ha : (runFor g n s).asking with
    | true =>
      -- move `n` accepts, and whatever waited before does not any more
      rw [if_pos rfl]
      constructor
      · exact fun ht => ⟨n, .inl ⟨rfl, rfl⟩, Option.some.inj ht, fun j hj hn => by omega⟩
      · rintro ⟨i, ⟨rfl, -⟩ | ⟨-, hf⟩, rfl, -⟩
        · rfl
        · cases hf
    | false =>
      rw [if_neg Bool.false_ne_true]
      cases hs : (runFor g n s).settles .answered || (runFor g n s).settles .failed with
      | false =>
        -- the acceptance is the same as before move `n`
        rw [if_neg Bool.false_ne_true, ih]
        constructor
        · rintro ⟨i, hi, ht, hr⟩
          refine ⟨i, .inr ⟨hi, rfl⟩, ht, fun j hj hij => ?_⟩
          rcases Nat.lt_succ_iff_lt_or_eq.mp hj with hj | rfl
          · exact hr j hj hij
          · exact Bool.or_eq_false_iff.mp hs
        · rintro ⟨i, ⟨-, hf⟩ | ⟨hi, -⟩, ht, hr⟩
          · cases hf
          · exact ⟨i, hi, ht, fun j hj => hr j (Nat.lt_succ_of_lt hj)⟩
      | true =>
        -- any acceptance has the answer or failure of move `n` after it
        rw [if_pos rfl]
        refine iff_of_false (Option.some_ne_none t).symm ?_
        rintro ⟨i, ⟨-, hf⟩ | ⟨hi, -⟩, -, hr⟩
        · cases hf
        · rw [Bool.or_eq_false_iff.mpr (hr n (Nat.lt_succ_self n) hi.before)] at hs
          cases hs

/-! ### Calls in flight -/

theorem mem_calls_effect (he : Effect g s m s') (hm : m ≠ .finish c) (hc : c ∈ s.calls) :
    c ∈ s'.calls := by
  have left {d : Call} (h : Move.finish d ≠ .finish c) : c ∈ s.calls.erase d :=
    (List.mem_erase_of_ne fun hd => h (by rw [hd])).mpr hc
  cases he with
  | drop => exact hc
  | accept => exact List.mem_append_left _ hc
  | ask => exact List.mem_append_left _ (left hm)
  | ignore | giveUp | die | skip | keep => exact left hm
  | write =>
    rw [notify_calls]
    exact left hm
  | event =>
    simp only [close, actAll_calls]
    exact hc

theorem exists_finish (ha : a ≤ n) (hc : c ∈ (runFor g a s).calls)
    (hn : c ∉ (runFor g n s).calls) :
    ∃ j < n, a ≤ j ∧ (runFor g j s).next? = some (.finish c) := by
  induction ha with
  | refl => exact absurd hc hn
  | @step n ha ih =>
    by_cases hc' : c ∈ (runFor g n s).calls
    · refine ⟨n, Nat.lt_succ_self n, ha, ?_⟩
      rw [runFor_succ] at hn
      cases hm : (runFor g n s).next? with
      | none =>
        rw [hm] at hn
        exact absurd hc' hn
      | some m =>
        rw [hm] at hn
        by_cases hf : m = .finish c
        · rw [hf]
        · exact absurd (mem_calls_effect (effect_step hm) hf hc') hn
    · obtain ⟨j, hj, haj, hf⟩ := ih hc'
      exact ⟨j, Nat.lt_succ_of_lt hj, haj, hf⟩

theorem accepts_of_asking (h : (runFor g i s).asking = true) :
    ∃ c, Accepts g s i (runFor g i s).observer.page.title c := by
  obtain ⟨hm, hr⟩ := asking_iff.mp h
  have he := effect_step (g := g) hm
  have hs : runFor g (i + 1) s = (runFor g i s).step g .notice := by rw [runFor_succ, hm]
  rw [← hs] at he
  generalize hs' : runFor g (i + 1) s = s' at he
  cases he with
  | drop _ hr' => rw [hr] at hr'; cases hr'
  | accept => exact ⟨_, h, rfl, rfl, rfl, by rw [hs']; rfl⟩

theorem Accepts.mem (h : Accepts g s i t c) : c ∈ (runFor g (i + 1) s).calls := by
  rw [h.called]
  exact List.mem_append_right _ (List.mem_singleton_self c)

/-- A call that is not in flight any more has ended after it was started. -/
theorem Accepts.exists_settles (h : Accepts g s i t c) (hn : i < n)
    (hc : c ∉ (runFor g n s).calls) :
    ∃ j < n, i < j ∧ (runFor g j s).settles c.ending = true := by
  obtain ⟨j, hj, hij, hf⟩ := exists_finish hn h.mem hc
  exact ⟨j, hj, hij, settles_iff.mpr ⟨c, hf, h.query, rfl⟩⟩

/-- A call that ended while its title went on waiting has died. -/
theorem Accepts.ending_eq_died (h : Accepts g s i t c) (hn : i < n)
    (hc : c ∉ (runFor g n s).calls)
    (hr : ∀ j < n, i < j →
      (runFor g j s).settles .answered = false ∧ (runFor g j s).settles .failed = false) :
    c.ending = .died := by
  obtain ⟨j, hj, hij, hs⟩ := h.exists_settles hn hc
  cases he : c.ending with
  | answered => rw [he, (hr j hj hij).1] at hs; cases hs
  | failed => rw [he, (hr j hj hij).2] at hs; cases hs
  | died => rfl

/-! ### Titles that are sent -/

/-- Of the moves after a given one that end a call in some way there is a first. -/
theorem exists_first_settles (hi : i < n) (hs : (runFor g n s).settles d = true) :
    ∃ k ≤ n, i < k ∧ (runFor g k s).settles d = true ∧
      ∀ j < k, i < j → (runFor g j s).settles d = false := by
  induction n using Nat.strongRecOn with
  | ind n ih =>
    by_cases hj : ∃ j < n, i < j ∧ (runFor g j s).settles d = true
    · obtain ⟨j, hjn, hij, hj⟩ := hj
      obtain ⟨k, hk, hk'⟩ := ih j hjn hij hj
      exact ⟨k, Nat.le_trans hk (Nat.le_of_lt hjn), hk'⟩
    · refine ⟨n, Nat.le_refl n, hi, hs, fun j hjn hij => ?_⟩
      exact Bool.eq_false_iff.mpr fun h => hj ⟨j, hjn, hij, h⟩

/-- A title that was accepted is sent just if the next move that accepts a title or ends such a call
without its dying is an answer. -/
theorem leads_iff (h₀ : s.observer.pending = none) : Leads g s i ↔
    (runFor g i s).asking = true ∧ ∃ k, i < k ∧ (runFor g k s).settles .answered = true ∧
      ∀ j < k, i < j → (runFor g j s).asking = false ∧ (runFor g j s).settles .failed = false := by
  constructor
  · rintro ⟨k, hl, hs⟩
    obtain ⟨hk, ht⟩ := sends_iff.mp hs
    obtain ⟨i', hl', -, hr⟩ := (pending_runFor_iff h₀).mp ht
    cases hl.unique hl'
    exact ⟨hl.asking, k, hl.before, hk, fun j hj hij => ⟨hl.later j hj hij, (hr j hj hij).2⟩⟩
  · rintro ⟨ha, n, hin, hn, hr⟩
    -- it is the first answer that takes the title along, and later ones do not matter
    obtain ⟨k, hkn, hik, hk, hf⟩ := exists_first_settles hin hn
    have hl : LastAccepted g s k i := ⟨hik, ha, fun j hj hij => (hr j (by omega) hij).1⟩
    have ht := (pending_runFor_iff h₀).mpr
      ⟨i, hl, rfl, fun j hj hij => ⟨hf j hj hij, (hr j (by omega) hij).2⟩⟩
    exact ⟨k, hl, sends_iff.mpr ⟨hk, ht⟩⟩

/-! ### Whole sessions -/

theorem formats_effect_le (he : Effect g s m s') :
    s'.signs.countP Sign.isFormat ≤
      s.signs.countP Sign.isFormat + (if m.settles .answered then 1 else 0) := by
  cases he with
  | drop => exact Nat.le_refl _
  | accept => simp [callConstants, dequeue, List.countP_append, Sign.isFormat]
  | ask _ _ hk he =>
    simp [callFormat, withoutCall, List.countP_append, Sign.isFormat, Move.settles, Call.isConstants,
      hk, he]
  | ignore | giveUp | die | skip | keep => exact Nat.le_add_right ..
  | write => simp [withoutCall, List.countP_append, Sign.isFormat]
  | event => simp [close, actAll_signs, withoutEvent]

/-- There are no more calls for formatted titles than answers to calls for what the renderer needs. -/
theorem formats_runFor_le (g : Setting) (n : Nat) (s : Session) :
    (runFor g n s).signs.countP Sign.isFormat ≤
      s.signs.countP Sign.isFormat + (course g n s).countP (Move.settles .answered ·.2) := by
  induction n generalizing s with
  | zero => exact Nat.le_refl _
  | succ n ih =>
    cases hm : s.next? with
    | none => simp [runFor_of_next?_eq_none hm, course_of_next?_eq_none hm]
    | some m =>
      rw [runFor_of_next? hm, course_of_next? hm]
      simp only [List.countP_cons]
      have h₁ := ih (s.step g m)
      have h₂ := formats_effect_le (effect_step (g := g) hm)
      omega

/-- A title that was accepted waits until a call for what the renderer needs is answered or fails. If
none of these calls dies, its own call is in flight as long as it waits. -/
theorem in_flight_of_pending (h : s.observer.pending = none)
    (hd : ∀ j < n, (runFor g j s).settles .died = false)
    (ht : (runFor g n s).observer.pending = some t) :
    ∃ i c, Accepts g s i t c ∧ LastAccepted g s n i ∧ c ∈ (runFor g n s).calls := by
  obtain ⟨i, hi, rfl, hr⟩ := (pending_runFor_iff h).mp ht
  obtain ⟨c, hc⟩ := accepts_of_asking hi.asking
  refine ⟨i, c, hc, hi, Classical.byContradiction fun hn => ?_⟩
  obtain ⟨j, hj, -, hs⟩ := hc.exists_settles hi.before hn
  rw [hc.ending_eq_died hi.before hn hr, hd j hj] at hs
  cases hs

/-- What is sent is the title that was accepted last. -/
theorem Sends.accepted (h : Sends g s n t) (h₀ : s.observer.pending = none) :
    ∃ i c, Accepts g s i t c ∧ LastAccepted g s n i := by
  obtain ⟨i, hi, rfl, -⟩ := (pending_runFor_iff h₀).mp (sends_iff.mp h).2
  obtain ⟨c, hc⟩ := accepts_of_asking hi.asking
  exact ⟨i, c, hc, hi⟩

/-- In a session in which no call for what the renderer needs dies, a title waits for its request only
while the call is in flight that was started when it was accepted. There are no more requests than
answers to such calls, each request is for the title that was accepted last, and in the end no title
waits. -/
theorem pending_in_flight {p : Page} {files : FileTree} {events : List Event} {isOpen : Bool}
    (hs : s = start { page := p } files events isOpen)
    (hd : ∀ n, (runFor g n s).settles .died = false) :
    (∀ n t, (runFor g n s).observer.pending = some t →
        ∃ i c, Accepts g s i t c ∧ LastAccepted g s n i ∧ c ∈ (runFor g n s).calls) ∧
      (∀ n, (runFor g n s).signs.countP Sign.isFormat ≤
        (course g n s).countP (Move.settles .answered ·.2)) ∧
      (∀ n t, Sends g s n t → ∃ i c, Accepts g s i t c ∧ LastAccepted g s n i) ∧
      (s.run g).observer.pending = none := by
  have h₀ : s.observer.pending = none := by rw [hs]; rfl
  refine ⟨fun n t ht => in_flight_of_pending h₀ (fun j _ => hd j) ht, fun n => ?_,
    fun n t h => h.accepted h₀, ?_⟩
  · have hf : s.signs.countP Sign.isFormat = 0 := by rw [hs]; rfl
    have h := formats_runFor_le g n s
    rwa [hf, Nat.zero_add] at h
  · cases ht : (s.run g).observer.pending with
    | none => rfl
    | some t =>
      obtain ⟨i, c, -, -, hc⟩ := in_flight_of_pending (n := s.weight) h₀ (fun j _ => hd j) ht
      have hl := (next?_eq_none_iff.mp (next?_run g s)).2.1
      rw [← run, hl] at hc
      cases hc

/-- The first call for what the renderer needs takes a given time and ends in a given way. Later ones
take longer than a call for a formatted title and are answered. -/
def firstEnds (delay : Nat) (ending : Ending) : Setting where
  store := ⟨⟨['o'], [['o']], false⟩⟩
  capacity := 1
  constantsPlan n := if n = 0 then { delay, ending } else { delay := 30 }
  formatPlan _ := {}

/-- A session of a page with a short title and a short address. -/
def sample (events : List Event) : Session :=
  start { page := Page.load ⟨"data".toList, none, .whole ['x'], none, none⟩ ['A'] } {} events true

set_option maxRecDepth 100000 in
/-- The second call's answer takes along the third title, whose own call is still in flight. -/
theorem pending_in_flight_third :
    let g := firstEnds 20 .failed
    let s := sample [⟨10, [.set ['B']]⟩, ⟨30, [.set ['C']]⟩]
    (∀ n, (runFor g n s).settles .died = false) ∧
      (runFor g 6 s).observer.pending = some ['C'] ∧
      (∃ i c, Accepts g s i ['C'] c ∧ LastAccepted g s 6 i ∧ c ∈ (runFor g 6 s).calls) ∧
      Sends g s 6 ['C'] ∧ (s.run g).observer.pending = none := by
  intro g s
  have hd : ∀ n, (runFor g n s).settles .died = false :=
    settles_eq_false_of_lt_weight (by decide +kernel)
  have ht : (runFor g 6 s).observer.pending = some ['C'] := by decide +kernel
  obtain ⟨hpending, -, -, hend⟩ := pending_in_flight (s := s) rfl hd
  exact ⟨hd, ht, hpending 6 _ ht, sends_iff.mpr ⟨by decide +kernel, ht⟩, hend⟩

end Session
end PageTitle
