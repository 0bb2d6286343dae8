import Mathlib.Order.Monotone.Basic
import PageTitle.Proofs.Session.Waiting

/-!
# A title that is noticed twice

What keeps a title from being accepted again is that it waits, or that the observer wrote it. Between
its request and the write of the answer neither is the case. So two notifications of one title with no
write between them can both lead to a request, and do just if the first had its title sent before the
second (`both_lead_iff`).
-/

namespace PageTitle
namespace Session
variable {g : Setting} {s s' : Session} {m : Move} {n i j a : Nat}

/-! ### Moves without a write -/

theorem writes_effect_mono (he : Effect g s m s') :
    s.observer.page.writes ≤ s'.observer.page.writes := by
  cases he with
  | drop | accept | ask | ignore | giveUp | die | skip | keep => exact Nat.le_refl _
  | write =>
    rw [notify_observer]
    exact Nat.le_succ _
  | event =>
    simp only [close, writes_actAll]
    exact Nat.le_refl _

/-- The title that the page showed after the last write changes with the next write only. -/
theorem shown_effect (he : Effect g s m s')
    (h : s'.observer.page.writes = s.observer.page.writes) :
    s'.observer.shown = s.observer.shown := by
  cases he with
  | drop | accept | ask | ignore | giveUp | die | skip | keep => rfl
  | write =>
    rw [notify_observer] at h
    exact absurd h (Nat.succ_ne_self _)
  | @event e =>
    obtain ⟨p, hp⟩ := observer_actAll g (s.withoutEvent e) e.actions
    simp only [close, hp]
    rfl

theorem writes_runFor_mono (g : Setting) (s : Session) :
    Monotone fun n => (runFor g n s).observer.page.writes := by
  refine monotone_nat_of_le_succ fun n => ?_
  rw [runFor_succ]
  cases hm : (runFor g n s).next? with
  | none => exact Nat.le_refl _
  | some m => exact writes_effect_mono (effect_step hm)

theorem shown_runFor (ha : a ≤ n)
    (hw : (runFor g n s).observer.page.writes = (runFor g a s).observer.page.writes) :
    (runFor g n s).observer.shown = (runFor g a s).observer.shown := by
  induction ha with
  | refl => rfl
  | @step n ha ih =>
    have h₁ := writes_runFor_mono g s ha
    have h₂ := writes_runFor_mono g s (Nat.le_succ n)
    have hn : (runFor g n s).observer.page.writes = (runFor g a s).observer.page.writes :=
      Nat.le_antisymm (h₂.trans hw.le) h₁
    rw [← ih hn]
    have hw' := hw.trans hn.symm
    rw [runFor_succ] at hw' ⊢
    cases hm : (runFor g n s).next? with
    | none => rfl
    | some m =>
      rw [hm] at hw'
      exact shown_effect (effect_step hm) hw'

/-! ### The second notification -/

/-- A title that was accepted is accepted at the next notification again, if nothing was written, just
if a call for what the renderer needs was answered or failed between. -/
theorem asking_again_iff (h₀ : s.observer.pending = none) (hij : i < j)
    (hi : (runFor g i s).asking = true) (hj : (runFor g j s).next? = some .notice)
    (hnext : ∀ k < j, i < k → (runFor g k s).asking = false)
    (htitle : (runFor g j s).observer.page.title = (runFor g i s).observer.page.title)
    (hwrites : (runFor g j s).observer.page.writes = (runFor g i s).observer.page.writes) :
    (runFor g j s).asking = true ↔ ∃ k < j, i < k ∧
      ((runFor g k s).settles .answered = true ∨ (runFor g k s).settles .failed = true) := by
  have hlast : LastAccepted g s j i := ⟨hij, hi, hnext⟩
  -- the title was not the observer's own at the first notification, and nothing was written since
  have hshown : (runFor g j s).observer.shown ≠ some (runFor g j s).observer.page.title := by
    rw [shown_runFor (Nat.le_of_lt hij) hwrites, htitle]
    have := (asking_iff.mp hi).2
    simp only [Observer.redundant, Bool.or_eq_false_iff, decide_eq_false_iff_not] at this
    exact this.2
  have hwaits : (runFor g j s).observer.pending = some (runFor g j s).observer.page.title ↔
      ∀ k < j, i < k →
        (runFor g k s).settles .answered = false ∧ (runFor g k s).settles .failed = false := by
    rw [pending_runFor_iff h₀]
    constructor
    · rintro ⟨i', hi', -, hr⟩
      cases hlast.unique hi'
      exact hr
    · exact fun hr => ⟨i, hlast, htitle.symm, hr⟩
  rw [asking_iff, Observer.redundant, Bool.or_eq_false_iff, decide_eq_false_iff_not,
    decide_eq_false_iff_not, hwaits]
  simp only [hj, true_and, hshown, not_false_eq_true, and_true]
  constructor
  · refine fun hw => Classical.byContradiction fun hn => hw fun k hk hik => ⟨?_, ?_⟩
    · exact Bool.eq_false_iff.mpr fun h => hn ⟨k, hk, hik, .inl h⟩
    · exact Bool.eq_false_iff.mpr fun h => hn ⟨k, hk, hik, .inr h⟩
  · rintro ⟨k, hk, hik, h⟩ hr
    simp [hr k hk hik] at h

/-- Of two notifications in a row that find the same title, with no write between them, both lead to a
request just if the first is accepted, the answer to a call for what the renderer needs comes between
them, and such an answer also comes after the second before another title is accepted. A call that
fails must not come before either answer. -/
theorem both_lead_iff {p : Page} {files : FileTree} {events : List Event} {isOpen : Bool}
    (hs : s = start { page := p } files events isOpen) (hij : i < j)
    (hj : (runFor g j s).next? = some .notice)
    (hnext : ∀ k < j, i < k → (runFor g k s).next? ≠ some .notice)
    (htitle : (runFor g j s).observer.page.title = (runFor g i s).observer.page.title)
    (hwrites : (runFor g j s).observer.page.writes = (runFor g i s).observer.page.writes) :
    (Leads g s i ∧ Leads g s j) ↔
      (runFor g i s).asking = true ∧
      (∃ k < j, i < k ∧ (runFor g k s).settles .answered = true ∧
        ∀ l < k, i < l → (runFor g l s).settles .failed = false) ∧
      ∃ k, j < k ∧ (runFor g k s).settles .answered = true ∧
        ∀ l < k, j < l →
          (runFor g l s).asking = false ∧ (runFor g l s).settles .failed = false := by
  have h₀ : s.observer.pending = none := by rw [hs]; rfl
  have hquiet : ∀ k < j, i < k → (runFor g k s).asking = false := fun k hk hik =>
    Bool.eq_false_iff.mpr fun h => hnext k hk hik (asking_iff.mp h).1
  rw [leads_iff h₀, leads_iff h₀]
  constructor
  · rintro ⟨⟨ha, k, hik, hk, hr⟩, hb, hafter⟩
    -- no title is accepted before the first is sent, so that is before the second notification
    refine ⟨ha, ⟨k, ?_, hik, hk, fun l hl hil => (hr l hl hil).2⟩, hafter⟩
    rcases Nat.lt_trichotomy k j with hkj | rfl | hjk
    · exact hkj
    · rw [settles_of_next? hj] at hk
      cases hk
    · rw [(hr j hjk hij).1] at hb
      cases hb
  · rintro ⟨ha, ⟨k, hkj, hik, hk, hr⟩, hafter⟩
    refine ⟨⟨ha, k, hik, hk, fun l hl hil => ⟨hquiet l (Nat.lt_trans hl hkj) hil, hr l hl hil⟩⟩,
      ?_, hafter⟩
    exact (asking_again_iff h₀ hij ha hj hquiet htitle hwrites).mpr ⟨k, hkj, hik, .inl hk⟩

set_option maxRecDepth 100000 in
/-- The second notification comes while the first still waits for its answer. -/
theorem both_lead_iff_waiting :
    let g := firstEnds 20 .answered
    let s := sample [⟨10, [.notify]⟩]
    (runFor g 0 s).next? = some .notice ∧ (runFor g 2 s).next? = some .notice ∧
      (∀ k < 2, 0 < k → (runFor g k s).next? ≠ some .notice) ∧
      (runFor g 2 s).observer.page.title = (runFor g 0 s).observer.page.title ∧
      (runFor g 2 s).observer.page.writes = (runFor g 0 s).observer.page.writes ∧
      Leads g s 0 ∧ ¬Leads g s 2 := by
  intro g s
  have hj : (runFor g 2 s).next? = some .notice := by decide +kernel
  have hnext : ∀ k < 2, 0 < k → (runFor g k s).next? ≠ some .notice := by decide +kernel
  have htitle : (runFor g 2 s).observer.page.title = (runFor g 0 s).observer.page.title := by
    decide +kernel
  have hwrites : (runFor g 2 s).observer.page.writes = (runFor g 0 s).observer.page.writes := by
    decide +kernel
  have hnone : ∀ k < 2, 0 < k → (runFor g k s).settles .answered = false := by decide +kernel
  have hlead : Leads g s 0 :=
    (leads_iff rfl).mpr ⟨by decide +kernel, 3, by decide, by decide +kernel, by decide +kernel⟩
  refine ⟨by decide +kernel, hj, hnext, htitle, hwrites, hlead, fun hlead' => ?_⟩
  obtain ⟨-, ⟨k, hk, hik, ha, -⟩, -⟩ :=
    (both_lead_iff (s := s) rfl (by decide) hj hnext htitle hwrites).mp ⟨hlead, hlead'⟩
  rw [hnone k hk hik] at ha
  cases ha

/-- What the renderer needs is there at once, and formatted titles take long. -/
def slowFormats : Setting :=
  { firstEnds 0 .answered with constantsPlan := fun _ => {}, formatPlan := fun _ => { delay := 30 } }

set_option maxRecDepth 100000 in
/-- The second notification comes while the first waits for its formatted title. -/
theorem both_lead_after_request :
    let g := slowFormats
    let s := sample [⟨10, [.notify]⟩]
    (∀ n, (g.constantsPlan n).ending = .answered ∧ (g.formatPlan n).ending = .answered) ∧
      (g.store.load s.files).isOk = true ∧
      (runFor g 0 s).next? = some .notice ∧ (runFor g 3 s).next? = some .notice ∧
      (∀ k < 3, 0 < k → (runFor g k s).next? ≠ some .notice) ∧
      (runFor g 3 s).observer.page.title = (runFor g 0 s).observer.page.title ∧
      (runFor g 3 s).observer.page.writes = (runFor g 0 s).observer.page.writes ∧
      Leads g s 0 ∧ Leads g s 3 := by
  intro g s
  refine ⟨fun n => ⟨rfl, rfl⟩, by decide +kernel, by decide +kernel, by decide +kernel,
    by decide +kernel, by decide +kernel, by decide +kernel, (leads_iff rfl).mpr ?_,
    (leads_iff rfl).mpr ?_⟩
  · exact ⟨by decide +kernel, 1, by decide, by decide +kernel, by decide +kernel⟩
  · exact ⟨by decide +kernel, 4, by decide, by decide +kernel, by decide +kernel⟩

end Session
end PageTitle
