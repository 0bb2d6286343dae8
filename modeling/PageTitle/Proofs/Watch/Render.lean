import PageTitle.Proofs.Watch.Prepend

/-!
# Rendering a title and watching it

`render` asks the options about an address as it was written, and the observer of a page asks them
about the address that was read from it. What they print is the same render otherwise
(`output_render`, `output_watch`), and so the two commands agree on a page just if the options decide
alike on both texts (`render_agrees_iff`).
-/

namespace PageTitle

theorem Update.title_make_none (format : Text) (env : Environment) :
    (make format env none).title = Format.render format env := by
  unfold make strip
  split <;> rfl

theorem Format.newline_not_mem_render (format : Text) (env : Environment) :
    '\n' ∉ render format env := fun h => by
  have hs := Text.eq_space_of_mem_normalize h rfl
  revert hs
  decide

theorem Observer.page_cycle (o : Options) (p : Page) {fields : List Text}
    (hall : ∀ f : LocationField, f.name ∈ fields) :
    (cycle { page := p } fields (Service.format o)).2.page =
      if o.accepts p.href then p.writeTitle (Format.render o.format ⟨p.location, p.title⟩)
      else p := by
  have hr : redundant { page := p } = false := by simp [redundant]
  rw [cycle_of_not_redundant hr, Location.copyFields_of_all _ hall, Service.format]
  by_cases ha : o.accepts p.href = true
  · rw [if_pos ha, if_pos ha]
    simp [receive, Update.title_make_none]
  · rw [if_neg ha, if_neg ha]
    rfl

namespace Command

/-- The page that is watched, when the observer has formatted its first title. -/
def firstPage (store : Store) (files : FileTree) (u : Url) (title : Text) : Page :=
  (Watch.first (Watch.setting store) { page := Page.load u title } files).session.observer.page

/-- A page that is watched without input and left alone: the observer writes nothing, and what is
printed is its title. -/
def LeftAlone (store : Store) (files : FileTree) (url : Text) (u : Url) (title : Text)
    (prepend : Bool) : Prop :=
  (firstPage store files u title).writes = 0 ∧
    (run (.watch url title prepend) store files []).output = unlines [title]

theorem unlines_singleton_ne_nil (t : Text) : unlines [t] ≠ [] := by
  simp [unlines]

variable {store : Store} {files : FileTree} {o : Options} {url : Text} {u : Url} {title : Text}

/-- What `watch` prints without input. -/
theorem output_watch (hparse : Url.parse url = .ok u) (title : Text) (prepend : Bool) :
    (run (.watch url title prepend) store files []).error = none ∧
      (run (.watch url title prepend) store files []).output =
        unlines [(firstPage store files u title).title] := by
  have hw : run (.watch url title prepend) store files [] =
      runWatch store files [] url title prepend := rfl
  rw [hw, runWatch, hparse]
  exact ⟨rfl, rfl⟩

section
variable (hload : store.load files = .ok o)
include hload

theorem page_firstPage (title : Text) : firstPage store files u title =
    if o.accepts u.href then
      (Page.load u title).writeTitle (Format.render o.format ⟨u.location, title.trim⟩)
    else Page.load u title := by
  rw [firstPage, (Watch.run_first (Page.load u title) hload).2]
  exact Observer.page_cycle o _ fun f => List.mem_map_of_mem f.mem_all

variable (hparse : Url.parse url = .ok u)
include hparse

/-- What `render` prints by the format of the options. -/
theorem output_render (title input : Text) :
    (run (.render url title none none) store files input).error = none ∧
      (run (.render url title none none) store files input).output =
        if o.accepts url then unlines [Format.render o.format ⟨u.location, title⟩] else [] := by
  have hr : run (.render url title none none) store files input =
      runRender o files url title none none := by
    rw [run, hload]
  rw [hr, runRender, hparse]
  by_cases ha : o.accepts url = true
  · simp [ha, chosenFormat, Update.title_make_none]
  · simp [ha]

theorem leftAlone_iff (ht : title.trim = title) (prepend : Bool) :
    LeftAlone store files url u title prepend ↔ o.accepts u.href = false := by
  rw [LeftAlone, (output_watch hparse title prepend).2, page_firstPage hload]
  cases ha : o.accepts u.href with
  | true => simp [Page.writeTitle]
  | false => simp [Page.load, ht]

/-- A title that the options have rendered is what both commands print. -/
theorem output_watch_of_accepts (ht : title.trim = title) (ha : o.accepts u.href = true)
    (prepend : Bool) : (run (.watch url title prepend) store files []).output =
      unlines [Format.render o.format ⟨u.location, title⟩] := by
  rw [(output_watch hparse title prepend).2, page_firstPage hload, if_pos ha, ht]
  exact congrArg (fun t => unlines [t]) (Text.trim_normalize _)

/-- `render` prints nothing just where `watch` leaves the page alone, and elsewhere both print one line
that is the same, if and only if the options decide alike on the address as it was written and as it
was read. -/
theorem render_agrees_iff (ht : title.trim = title) (input : Text) (prepend : Bool) :
    let rendered := run (.render url title none none) store files input
    let watched := run (.watch url title prepend) store files []
    let leftAlone := LeftAlone store files url u title prepend
    rendered.error = none ∧ watched.error = none ∧
      ((rendered.output = [] ↔ leftAlone) ∧
        (¬leftAlone → ∃ line, '\n' ∉ line ∧
          rendered.output = unlines [line] ∧ watched.output = unlines [line]) ↔
        o.accepts url = o.accepts u.href) := by
  intro rendered watched leftAlone
  obtain ⟨hre, hro⟩ := output_render hload hparse title input
  have hleft : leftAlone ↔ o.accepts u.href = false := leftAlone_iff hload hparse ht prepend
  have hnil : rendered.output = [] ↔ o.accepts url = false := by
    rw [hro]
    cases o.accepts url <;> simp [unlines_singleton_ne_nil]
  refine ⟨hre, (output_watch hparse title prepend).1, fun ⟨hagree, _⟩ => ?_, fun h => ⟨?_, ?_⟩⟩
  · -- that both are silent on the same pages already forces the decisions to agree
    rw [hnil, hleft] at hagree
    cases ha : o.accepts url with
    | true =>
      rw [ha] at hagree
      simpa using hagree
    | false => exact (hagree.mp ha).symm
  · rw [hnil, hleft, h]
  · intro hn
    have ha : o.accepts u.href = true := by
      rw [hleft] at hn
      simpa using hn
    refine ⟨Format.render o.format ⟨u.location, title⟩, Format.newline_not_mem_render _ _, ?_, ?_⟩
    · rw [hro, h, if_pos ha]
    · exact output_watch_of_accepts hload hparse ht ha prepend

end

/-- A file with options that exclude the addresses of a scheme. -/
def schemeFile : FileTree :=
  FileTree.put {} [['o']] (.file (Utf8.encode "url_filter_regexps = ['^http:']\n".toList))

set_option maxRecDepth 100000 in
/-- An address without its last slash is excluded either way. -/
theorem render_agrees_iff_slash :
    let store : Store := ⟨⟨['o'], [['o']], false⟩⟩
    let o : Options := { patterns := ["^http:".toList] }
    let u : Url := ⟨"http".toList, some ⟨[], some (.ipv6 [0, 0, 0, 0, 0, 0, 0, 1]), none⟩,
      .segments [[]], none, none⟩
    let url := "http://[::1]".toList
    store.load schemeFile = .ok o ∧ Url.parse url = .ok u ∧ Text.trim ['A'] = ['A'] ∧
      LeftAlone store schemeFile url u ['A'] false ∧
      (run (.render url ['A'] none none) store schemeFile []).output = [] := by
  intro store o u url
  have hl : store.load schemeFile = .ok o := by decide +kernel
  have hp : Url.parse url = .ok u := by decide +kernel
  have ht : Text.trim ['A'] = ['A'] := by decide
  have hd : o.accepts url = o.accepts u.href := by decide +kernel
  have hr : (run (.render url ['A'] none none) store schemeFile []).output = [] := by decide +kernel
  have hagree := (render_agrees_iff hl hp ht [] false).2.2.mpr hd
  exact ⟨hl, hp, ht, hagree.1.mp hr, hr⟩

set_option maxRecDepth 100000 in
/-- With its scheme in capitals, the address of a page that is left alone has its title rendered. -/
theorem render_capitals_disagrees :
    let store : Store := ⟨⟨['o'], [['o']], false⟩⟩
    let u : Url := ⟨"http".toList, some ⟨[], some (.ipv6 [0, 0, 0, 0, 0, 0, 0, 1]), none⟩,
      .segments [[]], none, none⟩
    let url := "HTTP://[::1]/".toList
    (∃ o, store.load schemeFile = .ok o) ∧ Url.parse url = .ok u ∧ Text.trim ['A'] = ['A'] ∧
      '\n' ∉ ['A'] ∧ LeftAlone store schemeFile url u ['A'] false ∧
      (run (.render url ['A'] none none) store schemeFile []).output =
        unlines ["A - http://[::1]/".toList] ∧
      ¬((run (.render url ['A'] none none) store schemeFile []).output = [] ↔
        LeftAlone store schemeFile url u ['A'] false) := by
  intro store u url
  have hl : store.load schemeFile = .ok { patterns := ["^http:".toList] } := by decide +kernel
  have hp : Url.parse url = .ok u := by decide +kernel
  have ht : Text.trim ['A'] = ['A'] := by decide
  have hleft : LeftAlone store schemeFile url u ['A'] false :=
    (leftAlone_iff hl hp ht false).mpr (by decide +kernel)
  have hr : (run (.render url ['A'] none none) store schemeFile []).output =
      unlines ["A - http://[::1]/".toList] := by decide +kernel
  refine ⟨⟨_, hl⟩, hp, ht, by decide, hleft, hr, fun h => ?_⟩
  rw [hr] at h
  exact unlines_singleton_ne_nil _ (h.mpr hleft)

end Command
end PageTitle
