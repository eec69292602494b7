import Intake.Form.OwnRule
import Intake.Proofs.Text.Blank

/-!
# Links to tickets, and where they lead

A link to a ticket is `https://`, a site, `.atlassian.net/browse/` and a key.  The site is any text
without a line feed, so it may hold slashes; and the host of a link is what stands before the first
slash, wherever that is.  So a link leads to the host that it seems to name if its site has no
slash, and otherwise to whatever the site says.

* `isKeyChars_iff` and `isLink_iff` are the grammar of keys and links;
* `pinsHost_iff` says which links lead to a host of the right name;
* `passes_ticketLink_iff` says both of the test for links, and `link_to_foreign_host` is a link that
  passes it and leads elsewhere.
-/

namespace Intake.Ticket

open Text

/-! ## Keys -/

/-- A key: capitals, a dash, and decimal digits of any script. -/
def IsKeyText (key : List Char) : Prop :=
  ∃ letters digits, letters ≠ [] ∧ (∀ c ∈ letters, isCapital c = true) ∧
    digits ≠ [] ∧ (∀ c ∈ digits, isDecimal c = true) ∧ key = letters ++ '-' :: digits

/-- A key is taken off the front with all its digits, exactly if one stands there. -/
theorem takeKey?_eq_some_iff {cs key rest : List Char} :
    takeKey? cs = some (key, rest) ↔
      IsKeyText key ∧ (∀ c ∈ rest.head?, isDecimal c = false) ∧ cs = key ++ rest := by
  unfold takeKey?
  dsimp only
  constructor
  · intro h
    split at h
    · rename_i more hmore
      split at h
      · cases h
      · rename_i hfull
        obtain ⟨hletters, hdigits⟩ :
            cs.takeWhile isCapital ≠ [] ∧ more.takeWhile isDecimal ≠ [] := by simpa using hfull
        obtain ⟨rfl, rfl⟩ := Prod.mk.inj (Option.some.inj h)
        obtain ⟨hcapitals, -, hcs⟩ := parted_iff.mp ⟨rfl, hmore⟩
        obtain ⟨hdecimals, hstop, hparts⟩ := parted_iff.mp ⟨rfl, rfl⟩
        refine ⟨⟨_, _, hletters, hcapitals, hdigits, hdecimals, rfl⟩, hstop, ?_⟩
        rw [List.append_assoc, List.cons_append, ← hparts]
        exact hcs
    · cases h
  · rintro ⟨⟨letters, digits, hletters, hcapitals, hdigits, hdecimals, rfl⟩, hstop, rfl⟩
    have hdash : ∀ c ∈ ('-' :: (digits ++ rest)).head?, isCapital c = false := by
      rintro c ⟨⟩
      decide
    obtain ⟨htake, hdrop⟩ := parted_iff.mpr ⟨hcapitals, hdash, rfl⟩
    obtain ⟨hall, hnone⟩ := parted_iff.mpr ⟨hdecimals, hstop, rfl⟩
    rw [List.append_assoc, List.cons_append, htake, hdrop]
    simp [hall, hnone, hletters, hdigits]

/-- **Keys are read by their grammar.** -/
theorem isKeyChars_iff {cs : List Char} : isKeyChars cs = true ↔ IsKeyText cs := by
  unfold isKeyChars
  constructor
  · intro h
    cases hkey : takeKey? cs with
    | none =>
      rw [hkey] at h
      cases h
    | some found =>
      obtain ⟨key, rest⟩ := found
      rw [hkey] at h
      obtain rfl : rest = [] := List.isEmpty_iff.mp h
      obtain ⟨hkeyText, -, rfl⟩ := takeKey?_eq_some_iff.mp hkey
      rwa [List.append_nil]
  · intro h
    have hkey : takeKey? cs = some (cs, []) :=
      takeKey?_eq_some_iff.mpr ⟨h, by simp, (List.append_nil cs).symm⟩
    rw [hkey]
    rfl

/-! ## Links -/

/-- A fixed beginning is taken off exactly if it is there. -/
theorem after?_eq_some_iff {start cs rest : List Char} :
    after? start cs = some rest ↔ cs = start ++ rest := by
  induction start generalizing cs with
  | nil =>
    rw [after?, List.nil_append]
    exact Option.some_inj
  | cons a start ih =>
    cases cs with
    | nil => simp [after?]
    | cons c cs =>
      rw [after?]
      by_cases hc : a = c
      · rw [if_pos hc, ih, hc, List.cons_append, List.cons.injEq]
        simp
      · rw [if_neg hc, List.cons_append, List.cons.injEq]
        simp [Ne.symm hc]

/-- What stands behind the middle of a link is a key exactly if the text is that middle and a
key. -/
theorem any_isKeyChars_iff {cs : List Char} : (after? linkMiddle cs).any isKeyChars = true ↔
    ∃ key, IsKeyText key ∧ cs = linkMiddle ++ key := by
  cases hmiddle : after? linkMiddle cs with
  | none =>
    refine iff_of_false Bool.false_ne_true ?_
    rintro ⟨key, -, heq⟩
    rw [after?_eq_some_iff.mpr heq] at hmiddle
    cases hmiddle
  | some key =>
    rw [after?_eq_some_iff.mp hmiddle, Option.any_some, isKeyChars_iff]
    constructor
    · intro h
      exact ⟨key, h, rfl⟩
    · rintro ⟨key', h, heq⟩
      rwa [List.append_cancel_left heq]

/-- The key is behind the middle of a link at the front, or further on in the same line. -/
theorem endsInKey_cons (c : Char) (rest : List Char) : endsInKey (c :: rest) =
    ((after? linkMiddle (c :: rest)).any isKeyChars || (c != '\n' && endsInKey rest)) := by
  rw [endsInKey]
  cases after? linkMiddle (c :: rest) <;> rfl

/-- The text goes on to the middle of a link and a key exactly if all of it is a site, that middle
and a key. -/
theorem endsInKey_iff {cs : List Char} : endsInKey cs = true ↔
    ∃ site key, '\n' ∉ site ∧ IsKeyText key ∧ cs = site ++ (linkMiddle ++ key) := by
  induction cs with
  | nil =>
    refine iff_of_false Bool.false_ne_true ?_
    rintro ⟨site, key, -, -, heq⟩
    have hmiddle : linkMiddle = [] := (List.append_eq_nil_iff.mp (List.append_eq_nil_iff.mp
      heq.symm).2).1
    exact absurd hmiddle (by decide)
  | cons c rest ih =>
    rw [endsInKey_cons, Bool.or_eq_true, Bool.and_eq_true, bne_iff_ne, any_isKeyChars_iff]
    constructor
    · rintro (⟨key, hkey, heq⟩ | ⟨hc, hrest⟩)
      · exact ⟨[], key, List.not_mem_nil, hkey, heq⟩
      · obtain ⟨site, key, hsite, hkey, rfl⟩ := ih.mp hrest
        exact ⟨c :: site, key, List.not_mem_cons_of_ne_of_not_mem (Ne.symm hc) hsite, hkey, rfl⟩
    · rintro ⟨site, key, hsite, hkey, heq⟩
      cases site with
      | nil => exact .inl ⟨key, hkey, heq⟩
      | cons d site =>
        obtain ⟨rfl, rfl⟩ := List.cons.inj heq
        obtain ⟨hc, hrest⟩ := List.ne_and_not_mem_of_not_mem_cons hsite
        exact .inr ⟨Ne.symm hc, ih.mpr ⟨site, key, hrest, hkey, rfl⟩⟩

/-- The text, blanks around it aside, is a link with a site and a key. -/
def IsLinkOf (s : String) (site key : List Char) : Prop :=
  (strip s).toList = linkStart ++ (site ++ (linkMiddle ++ key)) ∧ '\n' ∉ site ∧ IsKeyText key

/-- **Links are read by their grammar.** -/
theorem isLink_iff {s : String} : isLink s = true ↔ ∃ site key, IsLinkOf s site key := by
  have hchars : (strip s).toList = stripChars s.toList := String.toList_ofList
  unfold isLink IsLinkOf
  rw [hchars]
  cases hstart : after? linkStart (stripChars s.toList) with
  | none =>
    refine iff_of_false Bool.false_ne_true ?_
    rintro ⟨site, key, heq, -, -⟩
    rw [after?_eq_some_iff.mpr heq] at hstart
    cases hstart
  | some rest =>
    rw [after?_eq_some_iff.mp hstart]
    dsimp only
    rw [endsInKey_iff]
    constructor
    · rintro ⟨site, key, hsite, hkey, rfl⟩
      exact ⟨site, key, rfl, hsite, hkey⟩
    · rintro ⟨site, key, heq, hsite, hkey⟩
      exact ⟨site, key, hsite, hkey, List.append_cancel_left heq⟩

/-! ## Hosts -/

/-- How the host of a link to a ticket ends. -/
def hostEnd : List Char := ".atlassian.net".toList

/-- What stands before the first slash. -/
def beforeSlash (cs : List Char) : List Char := cs.takeWhile (· ≠ '/')

/-- The text, blanks around it aside, starts like a link, and what stands between that and the next
slash ends in the name of the host. -/
def PinsHost (s : String) : Prop :=
  ∃ rest, (strip s).toList = linkStart ++ rest ∧ hostEnd <:+ beforeSlash rest

/-- Text without a slash is before the first slash with what stands there in the text behind it. -/
theorem beforeSlash_append_of_not_mem {cs : List Char} (h : '/' ∉ cs) (rest : List Char) :
    beforeSlash (cs ++ rest) = cs ++ beforeSlash rest := by
  refine List.takeWhile_append_of_pos fun c hc => ?_
  simpa using ne_of_mem_of_not_mem hc h

/-- What stands behind a slash is not before the first one. -/
theorem beforeSlash_append_of_mem {cs : List Char} (h : '/' ∈ cs) (rest : List Char) :
    beforeSlash (cs ++ rest) = beforeSlash cs := by
  induction cs with
  | nil => cases h
  | cons c cs ih =>
    by_cases hc : c = '/'
    · simp [beforeSlash, hc]
    · have hmem : '/' ∈ cs := by
        rcases List.mem_cons.mp h with heq | hmem
        · exact absurd heq.symm hc
        · exact hmem
      have hself := ih hmem
      simp only [beforeSlash, List.cons_append, List.takeWhile_cons, hc, ne_eq, not_false_eq_true,
        decide_true, if_true, List.cons.injEq, true_and] at hself ⊢
      exact hself

/-- **Where a link leads.**  The host of a link has the right name exactly if the site has no
slash, or if what stands before its first slash has that name at its end. -/
theorem pinsHost_iff {s : String} {site key : List Char} (h : IsLinkOf s site key) :
    PinsHost s ↔ '/' ∉ site ∨ hostEnd <:+ beforeSlash site := by
  obtain ⟨heq, -, -⟩ := h
  have hsplit : linkMiddle = hostEnd ++ '/' :: "browse/".toList := by decide
  have hend : '/' ∉ hostEnd := by decide
  have honly : PinsHost s ↔ hostEnd <:+ beforeSlash (site ++ (linkMiddle ++ key)) := by
    constructor
    · rintro ⟨rest, hrest, hhost⟩
      rwa [← List.append_cancel_left (heq.symm.trans hrest)] at hhost
    · intro hhost
      exact ⟨_, heq, hhost⟩
  rw [honly]
  by_cases hslash : '/' ∈ site
  · rw [beforeSlash_append_of_mem hslash]
    simp [hslash]
  · have hhost : beforeSlash (site ++ (linkMiddle ++ key)) = site ++ hostEnd := by
      rw [beforeSlash_append_of_not_mem hslash, hsplit, List.append_assoc,
        beforeSlash_append_of_not_mem hend]
      simp [beforeSlash]
    rw [hhost]
    exact iff_of_true (List.suffix_append site hostEnd) (.inl hslash)

end Ticket

open Ticket

/-- **The test for links looks at the end of a link only.**  It passes the texts that are
`https://`, any site without a line feed, `.atlassian.net/browse/` and a key, blanks around them
aside.  Such a link leads to a host of that name exactly if its site has no slash, or if the name
stands already before the first slash of the site. -/
theorem passes_ticketLink_iff (s : String) (answers : Answers) :
    (RuleTest.passes? (.text s) answers .ticketLink = .ok true ↔
        ∃ site key, IsLinkOf s site key) ∧
      ∀ site key, IsLinkOf s site key →
        (PinsHost s ↔ '/' ∉ site ∨ hostEnd <:+ beforeSlash site) := by
  have hstrip : Text.strip (Text.strip s) = Text.strip s :=
    Text.strip_of_isTrimmed (Text.isTrimmed_strip s)
  have htest : RuleTest.passes? (.text s) answers .ticketLink = .ok (isLink (Text.strip s)) := rfl
  refine ⟨?_, fun site key hlink => pinsHost_iff hlink⟩
  rw [htest, Except.ok.injEq, isLink_iff]
  unfold IsLinkOf
  rw [hstrip]

/-- **A link to a foreign host passes.** -/
theorem link_to_foreign_host :
    RuleTest.passes? (.text "https://evil.com/x.atlassian.net/browse/ABC-1") .empty .ticketLink =
        .ok true ∧
      ¬ PinsHost "https://evil.com/x.atlassian.net/browse/ABC-1" := by
  have hlink : IsLinkOf "https://evil.com/x.atlassian.net/browse/ABC-1" "evil.com/x".toList
      "ABC-1".toList :=
    ⟨by decide +kernel, by decide, isKeyChars_iff.mp (by decide)⟩
  have hhost : ¬ hostEnd <:+ beforeSlash "evil.com/x".toList := by decide
  constructor
  · decide +kernel
  · rw [pinsHost_iff hlink]
    rintro (hslash | hend)
    · exact hslash (by decide)
    · exact hhost hend

end Intake
