import PageTitle.Proofs.Session.Waiting

/-!
# Calls that fail or die

A call for what the renderer needs that fails has the title that waits forgotten, whichever title it
was started for; one that dies leaves it waiting, and a title that waits is not noticed again. So a
failure can cost the page a newer title whose own call is answered (`sent_iff_answered_first`), and a
death has its title ignored from then on (`accepted_again_iff`).
-/

namespace PageTitle
namespace Session
variable {g : Setting} {s : Session} {c : Call} {d d' : Ending} {t : Text} {n i : Nat}
  {p : Page} {files : FileTree} {events : List Event} {isOpen : Bool}

theorem settles_unique (h : s.settles d = true) (h' : s.settles d' = true) : d = d' := by
  obtain ⟨c, hm, -, rfl⟩ := settles_iff.mp h
  obtain ⟨c', hm', -, rfl⟩ := settles_iff.mp h'
  rw [hm] at hm'
  cases hm'
  rfl

/-- Each call ends, as it is going to. -/
theorem Accepts.exists_later_settles (h : Accepts g s i t c) :
    ∃ k, i < k ∧ (runFor g k s).settles c.ending = true := by
  have hn : (runFor g (s.weight + (i + 1)) s).next? = none :=
    (lt_weight_or_next?_eq_none g s _).resolve_left (by omega)
  have hc : c ∉ (runFor g (s.weight + (i + 1)) s).calls := by
    rw [(next?_eq_none_iff.mp hn).2.1]
    exact List.not_mem_nil
  obtain ⟨k, -, hik, hk⟩ := h.exists_settles (by omega) hc
  exact ⟨k, hik, hk⟩

/-- A title that is accepted, none after it, and whose own call is answered, is sent just if no call for
what the renderer needs fails before one of them is answered. -/
theorem sent_iff_answered_first (hs : s = start { page := p } files events isOpen)
    (h : Accepts g s i t c) (hc : c.ending = .answered)
    (hl : ∀ j, i < j → (runFor g j s).asking = false) :
    (∃ j, i < j ∧ Sends g s j t) ↔
      ∀ j, i < j → (runFor g j s).settles .failed = true →
        ∃ k < j, i < k ∧ (runFor g k s).settles .answered = true := by
  have h₀ : s.observer.pending = none := by rw [hs]; rfl
  have hleads : (∃ j, i < j ∧ Sends g s j t) ↔ Leads g s i := by
    rw [← h.title]
    constructor
    · rintro ⟨j, hij, hj⟩
      exact ⟨j, ⟨hij, h.asking, fun k _ hik => hl k hik⟩, hj⟩
    · rintro ⟨j, hj, hsends⟩
      exact ⟨j, hj.before, hsends⟩
  rw [hleads, leads_iff h₀]
  constructor
  · rintro ⟨-, k, hik, hk, hr⟩ j hij hj
    -- the request is made at move `k`, and no call fails until then
    rcases Nat.lt_trichotomy j k with hjk | rfl | hkj
    · rw [(hr j hjk hij).2] at hj
      cases hj
    · cases settles_unique hk hj
    · exact ⟨k, hkj, hik, hk⟩
  · intro hf
    -- its own call is answered if no other is before, so that there is a first answer
    obtain ⟨n, hin, hn⟩ := h.exists_later_settles
    rw [hc] at hn
    obtain ⟨k, -, hik, hk, hfirst⟩ := exists_first_settles hin hn
    refine ⟨h.asking, k, hik, hk, fun j hj hij => ⟨hl j hij, Bool.eq_false_iff.mpr fun hj' => ?_⟩⟩
    obtain ⟨a, haj, hia, ha⟩ := hf j hij hj'
    rw [hfirst a (Nat.lt_trans haj hj) hia] at ha
    cases ha

/-- The call for the second title of a page. -/
def secondCall : Call where
  query := .constants
  number := 1
  due := 40
  ending := .answered
  fields := LocationField.all.map LocationField.name

set_option maxRecDepth 100000 in
/-- The first call fails after the second was answered. -/
theorem sent_iff_answered_first_late :
    let g := firstEnds 60 .failed
    let s := sample [⟨10, [.set ['B']]⟩]
    Accepts g s 2 ['B'] secondCall ∧ secondCall.ending = .answered ∧
      (∀ j, 2 < j → (runFor g j s).asking = false) ∧ (runFor g 5 s).settles .failed = true ∧
      ∃ j, 2 < j ∧ Sends g s j ['B'] := by
  intro g s
  have hc : Accepts g s 2 ['B'] secondCall :=
    ⟨by decide +kernel, by decide +kernel, rfl, by decide +kernel, by decide +kernel⟩
  have hl : ∀ j, 2 < j → (runFor g j s).asking = false :=
    asking_eq_false_of_lt_weight (by decide +kernel)
  have ha : (runFor g 3 s).settles .answered = true := by decide +kernel
  have hf : ∀ j, 2 < j → (runFor g j s).settles .failed = true →
      ∃ k < j, 2 < k ∧ (runFor g k s).settles .answered = true := fun j hj hfailed => by
    rcases Nat.lt_or_eq_of_le hj with h | rfl
    · exact ⟨3, h, by decide, ha⟩
    · cases settles_unique hfailed ha
  exact ⟨hc, rfl, hl, by decide +kernel, (sent_iff_answered_first rfl hc rfl hl).mpr hf⟩

set_option maxRecDepth 100000 in
/-- The first call fails before the second is answered, and the title that the second is for is never
sent. -/
theorem newer_title_not_sent :
    let g := firstEnds 20 .failed
    let s := sample [⟨10, [.set ['B']]⟩]
    Accepts g s 2 ['B'] secondCall ∧ secondCall.ending = .answered ∧
      (∀ j, 2 < j → (runFor g j s).asking = false) ∧
      (∀ j, (runFor g j s).settles .died = false) ∧ ∀ j, ¬Sends g s j ['B'] := by
  intro g s
  have hc : Accepts g s 2 ['B'] secondCall :=
    ⟨by decide +kernel, by decide +kernel, rfl, by decide +kernel, by decide +kernel⟩
  have hn : ∀ j < s.weight, ¬((runFor g j s).settles .answered = true ∧
    (runFor g j s).observer.pending = some ['B']) := by decide +kernel
  refine ⟨hc, rfl, asking_eq_false_of_lt_weight (by decide +kernel),
    settles_eq_false_of_lt_weight (by decide +kernel), fun j hj => ?_⟩
  rcases lt_weight_or_next?_eq_none g s j with hw | hw
  · exact hn j hw (sends_iff.mp hj)
  · have h := (sends_iff.mp hj).1
    rw [settles_of_next?_eq_none hw] at h
    cases h

/-- When no call for what the renderer needs is in flight, a notification of a title that the observer
did not write is accepted and starts such a call, unless the title is the one that was accepted last,
its own call died and no other was answered or failed since. -/
theorem accepted_again_iff (hs : s = start { page := p } files events isOpen)
    (hm : (runFor g n s).next? = some .notice)
    (hidle : ∀ c ∈ (runFor g n s).calls, c.isConstants = false)
    (hnew : (runFor g n s).observer.shown ≠ some (runFor g n s).observer.page.title) :
    (∃ c, Accepts g s n (runFor g n s).observer.page.title c) ↔
      ¬∃ i c, Accepts g s i (runFor g n s).observer.page.title c ∧ LastAccepted g s n i ∧
        c.ending = .died ∧ ∀ j < n, i < j →
          (runFor g j s).settles .answered = false ∧ (runFor g j s).settles .failed = false := by
  have h₀ : s.observer.pending = none := by rw [hs]; rfl
  have hasking : (∃ c, Accepts g s n (runFor g n s).observer.page.title c) ↔
      ¬(runFor g n s).observer.pending = some (runFor g n s).observer.page.title := by
    constructor
    · rintro ⟨c, hc⟩ hp
      have hr := (asking_iff.mp hc.asking).2
      simp [Observer.redundant, hp] at hr
    · intro hp
      exact accepts_of_asking (asking_iff.mpr ⟨hm, by simp [Observer.redundant, hp, hnew]⟩)
  rw [hasking, pending_runFor_iff h₀]
  refine not_congr ⟨?_, ?_⟩
  · rintro ⟨i, hi, ht, hr⟩
    obtain ⟨c, hc⟩ := accepts_of_asking hi.asking
    rw [ht] at hc
    -- its own call has ended, neither answered nor failed
    have hn : c ∉ (runFor g n s).calls := fun hn => by
      have := hidle c hn
      simp [Call.isConstants, hc.query] at this
    exact ⟨i, c, hc, hi, hc.ending_eq_died hi.before hn hr, hr⟩
  · rintro ⟨i, c, hc, hi, -, hr⟩
    exact ⟨i, hi, hc.title, hr⟩

set_option maxRecDepth 100000 in
/-- The title whose call failed is accepted at the next notification. -/
theorem accepted_again_iff_failed :
    let g := firstEnds 5 .failed
    let s := sample [⟨10, [.notify]⟩]
    (runFor g 1 s).settles .failed = true ∧ (runFor g 3 s).next? = some .notice ∧
      (∀ c ∈ (runFor g 3 s).calls, c.isConstants = false) ∧
      (runFor g 3 s).observer.shown ≠ some (runFor g 3 s).observer.page.title ∧
      ∃ c, Accepts g s 3 (runFor g 3 s).observer.page.title c := by
  intro g s
  have hf : (runFor g 1 s).settles .failed = true := by decide +kernel
  have hm : (runFor g 3 s).next? = some .notice := by decide +kernel
  have hidle : ∀ c ∈ (runFor g 3 s).calls, c.isConstants = false := by decide +kernel
  have hnew : (runFor g 3 s).observer.shown ≠ some (runFor g 3 s).observer.page.title := by
    decide +kernel
  have h₀ : LastAccepted g s 3 0 := ⟨by decide, by decide +kernel, by decide +kernel⟩
  refine ⟨hf, hm, hidle, hnew, (accepted_again_iff (s := s) rfl hm hidle hnew).mpr ?_⟩
  rintro ⟨i, c, -, hi, -, hr⟩
  cases hi.unique h₀
  have h := (hr 1 (by decide) (by decide)).2
  rw [hf] at h
  cases h

set_option maxRecDepth 100000 in
/-- The title whose call died is ignored at the next notification. -/
theorem died_title_ignored :
    let g := firstEnds 5 .died
    let s := sample [⟨10, [.notify]⟩]
    (runFor g 1 s).settles .died = true ∧ (runFor g 3 s).next? = some .notice ∧
      (∀ j < 3, 1 < j → (runFor g j s).next? ≠ some .notice) ∧
      (∀ c ∈ (runFor g 3 s).calls, c.isConstants = false) ∧
      (runFor g 3 s).observer.shown ≠ some (runFor g 3 s).observer.page.title ∧
      ¬∃ c, Accepts g s 3 (runFor g 3 s).observer.page.title c := by
  intro g s
  have ha : (runFor g 3 s).asking = false := by decide +kernel
  refine ⟨by decide +kernel, by decide +kernel, by decide +kernel, by decide +kernel,
    by decide +kernel, fun ⟨c, hc⟩ => ?_⟩
  rw [hc.asking] at ha
  cases ha

end Session
end PageTitle
