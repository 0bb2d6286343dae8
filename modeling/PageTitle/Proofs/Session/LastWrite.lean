import PageTitle.Proofs.Session.Moves
import PageTitle.Proofs.Update.Suffix

/-!
# The last write

`last_write_known`: as long as the title of a page is the one that the observer wrote last, the observer
knows it, it is in normal form, and it ends in the suffix that the next request will send. The options
may change between the formats that track their suffix and those that do not, and answers may come late
and in any order: title and suffix are recorded together, from one update. `author` tells who wrote the
title.
-/

namespace PageTitle

/-- Whether an action writes the title. -/
def Action.writes : Action → Bool
  | .set _ | .prepend _ | .append _ => true
  | .notify | .save _ | .overwrite _ | .look => false

/-- Who wrote the title that a page shows. -/
inductive Author where
  | page | observer
  deriving DecidableEq, Repr

namespace Author

/-- The author of the title after an action. -/
def act (a : Author) (x : Action) : Author := if x.writes then .page else a

/-- The author of the title after a move from one session to another. -/
def move (a : Author) (s s' : Session) : Move → Author
  | .notice => a
  | .finish _ => if s'.observer.page.writes = s.observer.page.writes then a else .observer
  | .event e => e.actions.foldl act a

/-- A title that the observer wrote is the one that it remembers, in normal form and with the suffix
that it remembers at its end, and the last formatted title is shown as it was written. -/
structure Knows (a : Author) (o : Observer) : Prop where
  shown : a = .observer → o.shown = some o.page.title
  normal : a = .observer → Text.normalize o.page.title = o.page.title
  suffix : a = .observer → ∀ t, o.suffix = some t → t <:+ o.page.title
  formatted : ∀ t, o.formatted = some t → o.shown = some t

end Author

namespace Session
variable {g : Setting} {s s' : Session} {m : Move} {a : Author} {l : List Action}

/-- Who wrote the title that the page shows after at most `n` moves. -/
def author (g : Setting) (s : Session) : (n : Nat) → Author
  | 0 => .page
  | n + 1 =>
    match (runFor g n s).next? with
    | none => author g s n
    | some m => (author g s n).move (runFor g n s) ((runFor g n s).step g m) m

/-- An observer of a page that only trims what it is written, and what the observer knows of it. -/
structure Informed (a : Author) (s : Session) : Prop where
  kept : s.observer.page.kept = Text.trim
  knows : a.Knows s.observer

namespace Informed

theorem act (h : s.Informed a) (x : Action) : (act g s x).Informed (a.act x) := by
  have ho := act_observer g s x
  cases x with
  | set t | prepend t | append t =>
    refine ⟨?_, ⟨nofun, nofun, nofun, ?_⟩⟩ <;> rw [ho]
    · exact h.kept
    · exact h.knows.formatted
  | notify | save o | overwrite t | look =>
    have ho : (Session.act g s _).observer = s.observer := ho
    exact ⟨by rw [ho]; exact h.kept, by rw [ho]; exact h.knows⟩

theorem actAll (h : s.Informed a) (l : List Action) :
    (actAll g s l).Informed (l.foldl Author.act a) := by
  induction l generalizing s a with
  | nil => exact h
  | cons x l ih => exact ih (h.act x)

/-- What the observer knows does not depend on the title that waits. -/
theorem withPending {p : Option Text} (h : s.Informed a) (hp : s'.observer = { s.observer with pending := p }) :
    s'.Informed a where
  kept := by rw [hp]; exact h.kept
  knows := by rw [hp]; exact ⟨h.knows.shown, h.knows.normal, h.knows.suffix, h.knows.formatted⟩

theorem step (h : s.Informed a) (he : Effect g s m s') : s'.Informed (a.move s s' m) := by
  have unwritten {c : Call} (hw : s'.observer.page.writes = s.observer.page.writes) :
      a.move s s' (.finish c) = a := if_pos hw
  cases he with
  | drop => exact h.withPending rfl
  | accept =>
    exact ⟨h.kept, ⟨h.knows.shown, h.knows.normal, h.knows.suffix, nofun⟩⟩
  | ask | giveUp =>
    rw [unwritten rfl]
    exact h.withPending rfl
  | ignore | die | skip | keep =>
    rw [unwritten rfl]
    exact ⟨h.kept, h.knows⟩
  | @write c r u hq hc hk hu =>
    obtain ⟨-, o, -, -, rfl⟩ := (update?_eq_some_iff hk).mp hu
    -- the page trims what it is written, and a normal form has nothing to trim
    have ht : (s.observer.page.writeTitle (Update.make o.format ⟨r.location, r.title⟩
        r.previous).title).title = (Update.make o.format ⟨r.location, r.title⟩ r.previous).title := by
      rw [Page.writeTitle, h.kept, ← Update.normalize_title_make, Text.trim_normalize]
    refine ⟨by rw [notify_observer]; exact h.kept, ?_⟩
    rw [notify_observer]
    exact
    { shown := fun _ => rfl
      normal := fun _ => by
        simp only [ht]
        exact Update.normalize_title_make ..
      suffix := fun _ t hs => by
        simp only [ht]
        exact Update.suffix_isSuffix_title _ _ _ hs
      formatted := fun t hf => by
        rw [← Option.some.inj hf]
        exact congrArg some ht }
  | @event e =>
    have h' : (s.withoutEvent e).Informed a := ⟨h.kept, h.knows⟩
    have := h'.actAll (g := g) e.actions
    exact ⟨this.kept, this.knows⟩

theorem runFor (h : s.Informed .page) (n : Nat) : (runFor g n s).Informed (author g s n) := by
  induction n with
  | zero => exact h
  | succ n ih =>
    rw [runFor_succ, author]
    cases hm : (Session.runFor g n s).next? with
    | none => exact ih
    | some m => exact ih.step (effect_step hm)

end Informed

theorem informed_start (url : Url) (title : Text) (files : FileTree) (events : List Event)
    (isOpen : Bool) :
    (start { page := Page.load url title } files events isOpen).Informed .page :=
  ⟨rfl, ⟨nofun, nofun, nofun, nofun⟩⟩

/-- After each move of a session, and after each action of an event, the observer knows the title that
it wrote last. -/
theorem last_write_known (g : Setting) (url : Url) (title : Text) (files : FileTree)
    (events : List Event) (isOpen : Bool) (n : Nat) :
    let s₀ := start { page := Page.load url title } files events isOpen
    let s := runFor g n s₀
    (author g s₀ n).Knows s.observer ∧
      ∀ e l, s.next? = some (.event e) → l <+: e.actions →
        (l.foldl Author.act (author g s₀ n)).Knows (actAll g (s.withoutEvent e) l).observer := by
  intro s₀ s
  have h : s.Informed (author g s₀ n) := (informed_start url title files events isOpen).runFor n
  refine ⟨h.knows, fun e l _ _ => ?_⟩
  have h' : (s.withoutEvent e).Informed (author g s₀ n) := ⟨h.kept, h.knows⟩
  exact (h'.actAll l).knows

set_option maxRecDepth 100000 in
/-- Other options are saved and the title is looked at before the page writes the next one. -/
theorem last_write_known_before_next :
    let g : Setting := ⟨⟨⟨['o'], [['o']], false⟩⟩, 1, fun _ => {}, fun _ => {}⟩
    let url : Url := ⟨"data".toList, none, .whole ['x'], none, none⟩
    let l : List Action := [.save { format := "x".toList }, .look]
    let e : Event := ⟨10, l ++ [.set ['B']]⟩
    let s₀ := start { page := Page.load url ['A'] } {} [e] true
    let s := runFor g 4 s₀
    s.next? = some (.event e) ∧ l <+: e.actions ∧
      l.foldl Author.act (author g s₀ 4) = .observer ∧
      (actAll g (s.withoutEvent e) l).observer.suffix = some "- data:///x".toList ∧
      Author.Knows .observer (actAll g (s.withoutEvent e) l).observer := by
  intro g url l e s₀ s
  have hn : s.next? = some (.event e) := by decide +kernel
  have ha : l.foldl Author.act (author g s₀ 4) = .observer := by decide +kernel
  refine ⟨hn, List.prefix_append .., ha, by decide +kernel, ?_⟩
  rw [← ha]
  exact (last_write_known g url ['A'] {} [e] true 4).2 e l hn (List.prefix_append ..)

end Session
end PageTitle
