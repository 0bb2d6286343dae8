import PageTitle.Proofs.Domain.Ascii
import PageTitle.Url.Parse

/-!
# How addresses are written

The parts of an address that was read hold visible characters only, whatever it was read from
(`written_of_parse`): what may not stand in a part is percent encoded (`Percent.visible_encode`), and a host is a
name in ASCII, a name without delimiters or numbers. Only a path without levels may hold a space.
-/

namespace PageTitle
open Text (Visible VisibleChar)

theorem exists_of_bind_eq_ok {ε α β : Type} {x : Except ε α} {f : α → Except ε β} {b : β}
    (h : x >>= f = .ok b) : ∃ a, x = .ok a ∧ f a = .ok b := by
  cases x with
  | error e => cases h
  | ok a => exact ⟨a, rfl, h⟩

namespace Percent
variable {c : Char}

theorem visible_byte (b : UInt8) : Visible (byte b) := by
  have hdigit : ∀ n < 16, Visible [Text.upperHexDigit n] := by decide
  have hb := b.toNat_lt
  have hpercent : Visible ['%'] := by decide
  have hhigh := hdigit (b.toNat / 16) (by omega)
  have hlow := hdigit (b.toNat % 16) (by omega)
  exact Text.visible_append.mpr ⟨hpercent, Text.visible_append.mpr ⟨hhigh, hlow⟩⟩

/-- What is not encoded can be seen, and so can what stands for the rest. -/
theorem visible_encode {set : Char → Bool} {t : Text}
    (h : ∀ c ∈ t, set c = false → VisibleChar c) : Visible (encode set t) := by
  refine Text.visible_flatMap.mpr fun c hc => ?_
  split
  · exact Text.visible_flatMap.mpr fun b _ => visible_byte b
  · next hset => exact Text.visible_cons.mpr ⟨h c hc (by simpa using hset), Text.visible_nil⟩

theorem visible_of_controls (h : controls c = false) (hs : c ≠ ' ') : VisibleChar c := by
  have hn : c.toNat ≠ 0x20 := fun hn => hs (Char.toNat_inj.mp hn)
  simp only [controls, Bool.or_eq_false_iff, decide_eq_false_iff_not] at h
  omega

theorem visible_of_fragment (h : fragment c = false) : VisibleChar c := by
  simp only [fragment, Bool.or_eq_false_iff, decide_eq_false_iff_not] at h
  obtain ⟨⟨⟨⟨⟨hc, hs⟩, -⟩, -⟩, -⟩, -⟩ := h
  exact visible_of_controls hc hs

theorem visible_of_query (h : query c = false) : VisibleChar c := by
  simp only [query, Bool.or_eq_false_iff, decide_eq_false_iff_not] at h
  obtain ⟨⟨⟨⟨⟨hc, hs⟩, -⟩, -⟩, -⟩, -⟩ := h
  exact visible_of_controls hc hs

theorem visible_of_specialQuery (h : specialQuery c = false) : VisibleChar c := by
  simp only [specialQuery, Bool.or_eq_false_iff] at h
  exact visible_of_query h.1

theorem visible_of_path (h : path c = false) : VisibleChar c := by
  simp only [path, Bool.or_eq_false_iff] at h
  obtain ⟨⟨⟨⟨hf, -⟩, -⟩, -⟩, -⟩ := h
  exact visible_of_fragment hf

end Percent

/-! ### Paths -/

namespace Path
variable {l raw done : List Text} {s t : Text}

theorem mem_of_mem_up (h : s ∈ up l) : s ∈ l := by
  unfold up at h
  split at h
  · split at h
    · exact h
    · exact List.dropLast_subset l h
  · cases h

theorem visible_concat (hl : ∀ x ∈ l, Visible x) (hs : Visible s) : ∀ x ∈ l ++ [s], Visible x := by
  intro x hx
  rcases List.mem_append.mp hx with hx | hx
  · exact hl x hx
  · rw [List.mem_singleton.mp hx]
    exact hs

/-- The segments that stand are raw ones and empty ones. -/
theorem visible_resolve (hdone : ∀ x ∈ done, Visible x) (hraw : ∀ x ∈ raw, Visible x) :
    ∀ x ∈ resolve done raw, Visible x := by
  fun_induction resolve done raw with
  | case1 done => exact hdone
  | case2 done s _ => exact visible_concat (fun x hx => hdone x (mem_of_mem_up hx)) Text.visible_nil
  | case3 done s _ _ => exact visible_concat hdone Text.visible_nil
  | case4 done s _ _ => exact visible_concat hdone (hraw s List.mem_cons_self)
  | case5 done s rest _ _ ih =>
    exact ih (fun x hx => hdone x (mem_of_mem_up hx)) (List.forall_mem_cons.mp hraw).2
  | case6 done s rest _ _ _ ih => exact ih hdone (List.forall_mem_cons.mp hraw).2
  | case7 done s rest _ _ _ ih =>
    obtain ⟨hs, hrest⟩ := List.forall_mem_cons.mp hraw
    exact ih (visible_concat hdone hs) hrest

theorem visible_segment (t : Text) : Visible (Percent.encode Percent.path t) :=
  Percent.visible_encode fun _ _ => Percent.visible_of_path

theorem visible_ofText (isSlash : Char → Bool) (t : Text) : ∀ x ∈ ofText isSlash t, Visible x :=
  visible_resolve (List.forall_mem_nil _) (List.forall_mem_map.mpr fun part _ => visible_segment part)

theorem visible_normalDrive (h : Visible s) : Visible (normalDrive s) := by
  unfold normalDrive
  split
  · exact Text.visible_append.mpr ⟨fun c hc => h c (List.mem_of_mem_take hc), by decide⟩
  · exact h

theorem visible_ofFileText (t : Text) : ∀ x ∈ ofFileText t, Visible x := by
  have hresolved : ∀ x ∈ resolve [] ((Text.splitBy (fun c => c = '/' || c = '\\') t).map
      fun s => normalDrive (Percent.encode Percent.path s)), Visible x :=
    visible_resolve (List.forall_mem_nil _)
      (List.forall_mem_map.mpr fun part _ => visible_normalDrive (visible_segment part))
  intro x hx
  unfold ofFileText at hx
  simp only at hx
  split at hx
  · rw [List.mem_singleton.mp hx]
    exact Text.visible_nil
  · exact hresolved x ((List.dropWhile_sublist _).subset hx)

theorem visible_toText (h : ∀ x ∈ l, Visible x) : Visible (toText l) :=
  Text.visible_flatMap.mpr fun x hx => Text.visible_cons.mpr ⟨by decide, h x hx⟩

end Path

/-! ### Hosts -/

namespace Host
variable {t : Text} {h : Host}

theorem visible_ipv4 (address : Nat) : Visible (ipv4 address).toText :=
  Text.visible_joinWith_map (by decide) fun n _ => Text.visible_decimal n

theorem visible_colons (groups : List Nat) : Visible (IPv6.colons groups) :=
  Text.visible_joinWith_map (by decide) fun n _ => Text.visible_hexadecimal n

theorem visible_ipv6 (groups : List Nat) : Visible (ipv6 groups).toText := by
  have hgroups : Visible (IPv6.toText groups) := by
    unfold IPv6.toText
    split
    split
    · exact visible_colons groups
    · have hrun : Visible "::".toList := by decide
      simp only [Text.visible_append]
      exact ⟨⟨visible_colons _, hrun⟩, visible_colons _⟩
  exact Text.visible_cons.mpr ⟨by decide, Text.visible_append.mpr ⟨hgroups, by decide⟩⟩

theorem visible_bracketed (hb : bracketed t = .ok h) : Visible h.toText := by
  unfold bracketed at hb
  split at hb
  · cases hb
    exact visible_ipv6 _
  · cases hb

theorem visible_parse (hp : parse t = .ok h) : Visible h.toText := by
  unfold parse at hp
  split at hp
  · exact visible_bracketed hp
  · split at hp
    · cases hp
    · next d hd =>
      obtain ⟨name, -, hname⟩ := Option.bind_eq_some_iff.mp hd
      split at hp
      · cases hp
      · split at hp
        · split at hp
          · cases hp
            exact visible_ipv4 _
          · cases hp
        · cases hp
          exact Domain.visible_toAscii hname

theorem visible_parseName (hp : parseName t = .ok (some h)) : Visible h.toText := by
  unfold parseName at hp
  split at hp
  · cases hp
  · next r =>
    cases hb : bracketed r with
    | error e => rw [hb] at hp; cases hp
    | ok h' =>
      rw [hb] at hp
      cases hp
      exact visible_bracketed hb
  · split at hp
    · cases hp
    · next hno =>
      cases hp
      refine Percent.visible_encode fun c hc hset => Percent.visible_of_controls hset ?_
      rintro rfl
      exact hno (List.any_eq_true.mpr ⟨' ', hc, by decide⟩)

end Host

/-! ### Addresses -/

namespace Url
variable {k : SchemeKind} {scheme t : Text} {u : Url}

/-- What the parts of an address are made of. -/
structure Written (u : Url) : Prop where
  scheme : Visible u.scheme
  colon : ':' ∉ u.scheme
  host : ∀ a, u.authority = some a → ∀ h, a.host = some h → Visible h.toText
  path : ∀ a, u.authority = some a → Visible u.path.toText
  query : ∀ q, u.query = some q → Visible q
  fragment : ∀ f, u.fragment = some f → Visible f

theorem visible_cutTail (k : SchemeKind) (t : Text) :
    (∀ q, (cutTail k t).2.query = some q → Visible q) ∧
      ∀ f, (cutTail k t).2.fragment = some f → Visible f := by
  have hquery (r : Text) : Visible
      (Percent.encode (if k.isSpecial then Percent.specialQuery else Percent.query) r) := by
    refine Percent.visible_encode fun c _ hc => ?_
    split at hc
    · exact Percent.visible_of_specialQuery hc
    · exact Percent.visible_of_query hc
  have hfragment (r : Text) : Visible (Percent.encode Percent.fragment r) :=
    Percent.visible_encode fun c _ => Percent.visible_of_fragment
  unfold cutTail
  split
  next front fragment hcut =>
  have hf : ∀ f, fragment = some f → Visible f := by
    intro f hf
    split at hcut
    · cases hcut
      cases hf
      exact hfragment _
    · cases hcut
      cases hf
  simp only
  split
  · refine ⟨fun q hq => ?_, hf⟩
    cases hq
    exact hquery _
  · exact ⟨nofun, hf⟩

theorem visible_readHost {h : Host} (hr : readHost k t = .ok (some h)) : Visible h.toText := by
  unfold readHost at hr
  split at hr
  · split at hr
    · cases hr
    · cases hp : Host.parse t with
      | error e => rw [hp] at hr; cases hr
      | ok h' =>
        rw [hp] at hr
        cases hr
        exact Host.visible_parse hp
  · exact Host.visible_parseName hr

theorem visible_readAuthority {a : Authority} {rest : Text} {pathFollows : Bool}
    (hr : readAuthority k t pathFollows = .ok (a, rest)) :
    ∀ h, a.host = some h → Visible h.toText := by
  unfold readAuthority at hr
  obtain ⟨⟨user, rest'⟩, -, hr⟩ := exists_of_bind_eq_ok hr
  obtain ⟨host, hhost, hr⟩ := exists_of_bind_eq_ok hr
  have ha : a.host = host := by
    split at hr
    · cases hr
    · obtain ⟨⟨port, rest''⟩, -, hr⟩ := exists_of_bind_eq_ok hr
      cases hr
      rfl
  intro h hh
  rw [ha] at hh
  rw [hh] at hhost
  exact visible_readHost hhost

theorem visible_levels (k : SchemeKind) (t : Text) : Visible (levels k t).toText := by
  unfold levels
  split
  · refine Path.visible_toText fun x hx => ?_
    split at hx
    · rw [List.mem_singleton.mp hx]
      exact Text.visible_nil
    · cases hx
  · exact Path.visible_toText (Path.visible_ofText _ _)

theorem visible_filePath (t : Text) : ∀ x ∈ filePath t, Visible x := by
  unfold filePath
  split <;> exact Path.visible_ofFileText _

theorem visible_fileHost {below : Text} {host : Option Host} (h : fileHost t = .ok (host, below)) :
    ∀ x, host = some x → Visible x.toText := by
  unfold fileHost at h
  simp only at h
  split at h
  · cases h
    nofun
  · split at h
    · cases h
      nofun
    · obtain ⟨host', hparse, h⟩ := exists_of_bind_eq_ok h
      cases h
      intro x hx
      split at hx
      · cases hx
      · cases hx
        exact Host.visible_parse hparse

section
variable (hs : Visible scheme) (hc : ':' ∉ scheme)
include hs hc

theorem written_afterSlashes (h : afterSlashes k scheme t = .ok u) : Written u := by
  obtain ⟨⟨a, left⟩, ha, h⟩ := exists_of_bind_eq_ok h
  obtain ⟨hquery, hfragment⟩ := visible_cutTail k (left ++ (cutAuthority k t).2)
  cases h
  refine ⟨hs, hc, ?_, fun _ _ => visible_levels k _, hquery, hfragment⟩
  intro a' ha'
  cases ha'
  exact visible_readAuthority ha

theorem written_afterOther (h : afterOther scheme t = .ok u) : Written u := by
  unfold afterOther at h
  split at h
  · exact written_afterSlashes hs hc h
  · obtain ⟨hquery, hfragment⟩ := visible_cutTail .other t
    cases h
    exact ⟨hs, hc, nofun, nofun, hquery, hfragment⟩

theorem written_file {below : Text} {host : Option Host} {segments : List Text}
    (hhost : ∀ x, host = some x → Visible x.toText) (hsegments : ∀ x ∈ segments, Visible x) :
    Written ⟨scheme, some ⟨[], if hasDrive segments then none else host, none⟩, .segments segments,
      (cutTail .file below).2.query, (cutTail .file below).2.fragment⟩ := by
  obtain ⟨hquery, hfragment⟩ := visible_cutTail .file below
  refine ⟨hs, hc, ?_, fun _ _ => Path.visible_toText hsegments, hquery, hfragment⟩
  intro a ha x hx
  cases ha
  simp only at hx
  split at hx
  · cases hx
  · exact hhost x hx

theorem written_afterFile (h : afterFile scheme t = .ok u) : Written u := by
  unfold afterFile at h
  simp only at h
  split at h
  · split at h
    · obtain ⟨⟨host, below⟩, hhost, h⟩ := exists_of_bind_eq_ok h
      cases h
      exact written_file hs hc (visible_fileHost hhost) (visible_filePath _)
    · cases h
      exact written_file hs hc nofun (visible_filePath _)
  · cases h
    exact written_file hs hc nofun (visible_filePath _)

end

/-- What may stand in a scheme can be seen in lower case, and is no colon. -/
theorem lowerAscii_of_scheme {c : Char} (h : (Text.isAsciiLetter c || Text.isDigit 10 c || c = '+' ||
    c = '-' || c = '.') = true) :
    VisibleChar (Text.lowerAscii c) ∧ (Text.lowerAscii c).toNat ≠ 0x3A := by
  have hc : 0x20 < c.toNat ∧ c.toNat < 0x7F ∧ c.toNat ≠ 0x3A := by
    simp only [Bool.or_eq_true, decide_eq_true_eq] at h
    rcases h with (((h | h) | rfl) | rfl) | rfl
    · simp only [Text.isAsciiLetter, Bool.or_eq_true, Bool.and_eq_true, decide_eq_true_eq] at h
      omega
    · have := Text.toNat_of_isDigit h
      omega
    · decide
    · decide
    · decide
  unfold Text.lowerAscii
  split
  · next hcapital =>
    simp only [Bool.and_eq_true, decide_eq_true_eq] at hcapital
    have hascii : ∀ n < 0x7F, (Char.ofNat n).toNat = n := by decide
    have := hascii (c.toNat + 32) (by omega)
    omega
  · omega

theorem visible_cutScheme {rest : Text} (h : cutScheme? t = some (scheme, rest)) :
    Visible scheme ∧ ':' ∉ scheme := by
  unfold cutScheme? at h
  split at h
  · cases h
  · next raw rest' hcut =>
    split at h
    · next hall =>
      cases h
      have hchar : ∀ c ∈ raw.map Text.lowerAscii, VisibleChar c ∧ c.toNat ≠ 0x3A := by
        intro c hc
        obtain ⟨d, hd, rfl⟩ := List.mem_map.mp hc
        exact lowerAscii_of_scheme (List.all_eq_true.mp (Bool.and_eq_true_iff.mp hall).2 d hd)
      exact ⟨fun c hc => (hchar c hc).1, fun hc => (hchar ':' hc).2 rfl⟩
    · cases h

theorem written_of_parse (h : parse t = .ok u) : Written u := by
  unfold parse at h
  split at h
  · cases h
  · next scheme rest hcut =>
    obtain ⟨hs, hc⟩ := visible_cutScheme hcut
    split at h
    · exact written_afterSlashes hs hc h
    · exact written_afterFile hs hc h
    · exact written_afterOther hs hc h

end Url
end PageTitle
