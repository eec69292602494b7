import Intake.Proofs.Fault
import Intake.Proofs.Text.Span

/-!
# Blocks

A block is a script or a style with all that stands in it, from its opening tag to the first closing
tag of its name.  Like tags, blocks are written down once as a grammar, apart from the reader that
looks for one.  That the first closing tag ends a block is part of the grammar: none stands in the
body.  A closing tag has an opening bracket at its front and nowhere else, so none can begin in the
body and end behind it either, and the end of a block is where the reader finds it.

* `IsClosing`, `HasNoClosing` and `IsBlock` are the grammar;
* `afterBlock?_eq_some_iff` says that the reader stops at the first closing tag;
* `marks_block` says that the reader finds the blocks and nothing else.
-/

namespace Intake.Text.Markup

/-- A closing tag of a name: the name in whatever case, and perhaps blanks behind it. -/
def IsClosing (name closing : List Char) : Prop :=
  ∃ written blanks, List.Forall₂ (fun a b => sameLetter a b = true) name written ∧
    (∀ c ∈ blanks, isBlank c = true) ∧
    closing = '<' :: '/' :: (written ++ (blanks ++ ['>']))

/-- No closing tag of a name stands in the text. -/
def HasNoClosing (name body : List Char) : Prop :=
  ∀ before closing after, IsClosing name closing → body ≠ before ++ (closing ++ after)

/-- One of the names of blocks, in whatever case. -/
def IsBlockName (name : List Char) : Prop :=
  ∃ letters ∈ blockNames, List.Forall₂ (fun a b => isLetterOf a b = true) letters name

/-- A block without its opening bracket. -/
def IsBlock (span : List Char) : Prop :=
  ∃ name attributes body closing, IsBlockName name ∧ startsWithWordChar attributes = false ∧
    '>' ∉ attributes ∧ HasNoClosing name body ∧ IsClosing name closing ∧
    span = name ++ (attributes ++ '>' :: (body ++ closing))

/-! ## Names -/

/-- Takes off the front what agrees with a pattern, character by character. -/
def takeAlike? (agree : Char → Char → Bool) :
    List Char → List Char → Option (List Char × List Char)
  | [], cs => some ([], cs)
  | a :: pattern, c :: cs =>
    if agree a c then (takeAlike? agree pattern cs).map fun (taken, rest) => (c :: taken, rest)
    else none
  | _ :: _, [] => none

/-- A name is taken off the front by its letters. -/
theorem takeName?_eq (letters cs : List Char) :
    takeName? letters cs = takeAlike? isLetterOf letters cs := by
  induction letters generalizing cs with
  | nil => rw [takeName?, takeAlike?]
  | cons letter letters ih =>
    cases cs with
    | nil => rw [takeName?, takeAlike?]
    | cons c cs => rw [takeName?, takeAlike?, ih]

/-- What agrees with a name is dropped by its characters. -/
theorem dropSame?_eq (name cs : List Char) :
    dropSame? name cs = (takeAlike? sameLetter name cs).map Prod.snd := by
  induction name generalizing cs with
  | nil => rw [dropSame?, takeAlike?, Option.map_some]
  | cons a name ih =>
    cases cs with
    | nil => rw [dropSame?, takeAlike?, Option.map_none]
    | cons c cs =>
      rw [dropSame?, takeAlike?, ih]
      split
      · rw [Option.map_map]
        rfl
      · rfl

/-- What agrees with a pattern is taken off exactly if it stands at the front. -/
theorem takeAlike?_eq_some_iff {agree : Char → Char → Bool} {pattern cs taken rest : List Char} :
    takeAlike? agree pattern cs = some (taken, rest) ↔
      List.Forall₂ (fun a b => agree a b = true) pattern taken ∧ cs = taken ++ rest := by
  constructor
  · intro h
    induction pattern generalizing cs taken with
    | nil =>
      cases h
      exact ⟨.nil, rfl⟩
    | cons a pattern ih =>
      cases cs with
      | nil => cases h
      | cons c cs =>
        rw [takeAlike?] at h
        by_cases hc : agree a c = true
        · rw [if_pos hc, Option.map_eq_some_iff] at h
          obtain ⟨⟨more, left⟩, hmore, heq⟩ := h
          obtain ⟨rfl, rfl⟩ := Prod.mk.inj heq
          obtain ⟨hagree, rfl⟩ := ih hmore
          exact ⟨.cons hc hagree, rfl⟩
        · rw [if_neg hc] at h
          cases h
  · rintro ⟨hagree, rfl⟩
    induction hagree with
    | nil => rw [takeAlike?, List.nil_append]
    | cons hc _ ih => rw [List.cons_append, takeAlike?, if_pos hc, ih, Option.map_some]

/-- A letter without kin is written by the characters that have it for their small form. -/
theorem toNat_of_isLetterOf {letter c : Char} (hkin : kinOf letter.toNat = [])
    (h : isLetterOf letter c = true) : (simpleLower c).toNat = letter.toNat := by
  unfold isLetterOf at h
  rw [hkin] at h
  simpa using h

/-- The names of blocks part at their second letters. -/
theorem not_both_names {cs script style : List Char}
    (hscript : List.Forall₂ (fun a b => isLetterOf a b = true) "script".toList script)
    (hstyle : List.Forall₂ (fun a b => isLetterOf a b = true) "style".toList style)
    (hfirst : script <+: cs) (hsecond : style <+: cs) : False := by
  have hscriptLetters : "script".toList = ['s', 'c', 'r', 'i', 'p', 't'] := by decide
  have hstyleLetters : "style".toList = ['s', 't', 'y', 'l', 'e'] := by decide
  rw [hscriptLetters] at hscript
  rw [hstyleLetters] at hstyle
  obtain ⟨rest, rfl⟩ := hfirst
  obtain ⟨other, heq⟩ := hsecond
  cases hscript with
  | cons _ hscript =>
    cases hscript with
    | cons hc _ =>
      cases hstyle with
      | cons _ hstyle =>
        cases hstyle with
        | cons ht _ =>
          obtain ⟨-, heq⟩ := List.cons.inj heq
          obtain ⟨rfl, -⟩ := List.cons.inj heq
          have hsame := (toNat_of_isLetterOf (by decide) hc).symm.trans
            (toNat_of_isLetterOf (by decide) ht)
          exact absurd hsame (by decide)

/-- A block has one name only. -/
theorem blockName?_eq_some_iff {cs name rest : List Char} :
    blockName? cs = some (name, rest) ↔ IsBlockName name ∧ cs = name ++ rest := by
  have hsplit : blockName? cs =
      (takeName? "script".toList cs).or (takeName? "style".toList cs) := by
    unfold blockName? blockNames
    rw [List.findSome?_cons]
    cases takeName? "script".toList cs <;> simp
  have hiff : ∀ letters name rest : List Char,
      takeName? letters cs = some (name, rest) ↔
        List.Forall₂ (fun a b => isLetterOf a b = true) letters name ∧ cs = name ++ rest := by
    intro letters name rest
    rw [takeName?_eq, takeAlike?_eq_some_iff]
  rw [hsplit, Option.or_eq_some_iff]
  constructor
  · rintro (hfirst | ⟨-, hsecond⟩)
    · obtain ⟨hname, heq⟩ := (hiff _ _ _).mp hfirst
      exact ⟨⟨_, List.mem_cons_self, hname⟩, heq⟩
    · obtain ⟨hname, heq⟩ := (hiff _ _ _).mp hsecond
      exact ⟨⟨_, List.mem_cons_of_mem _ List.mem_cons_self, hname⟩, heq⟩
  · rintro ⟨⟨letters, hletters, hname⟩, heq⟩
    have hcases : letters = "script".toList ∨ letters = "style".toList := by
      simpa [blockNames] using hletters
    rcases hcases with rfl | rfl
    · exact .inl ((hiff _ _ _).mpr ⟨hname, heq⟩)
    · refine .inr ⟨?_, (hiff _ _ _).mpr ⟨hname, heq⟩⟩
      refine Option.eq_none_iff_forall_ne_some.mpr fun found hfound => ?_
      obtain ⟨hother, hsame⟩ := (hiff _ found.1 found.2).mp hfound
      exact not_both_names hother hname ⟨_, hsame.symm⟩ ⟨_, heq.symm⟩

/-- No character of a block's name has the opening bracket for its small form. -/
theorem IsBlockName.simpleLower_ne {name : List Char} (h : IsBlockName name) :
    ∀ a ∈ name, simpleLower a ≠ '<' := by
  have hletters : (blockNames.all fun letters => letters.all fun letter =>
      !('<'.toNat == letter.toNat || (kinOf letter.toNat).contains '<'.toNat)) = true := by
    decide
  intro a ha hbracket
  obtain ⟨letters, hmem, hname⟩ := h
  obtain ⟨letter, hletter, hagree⟩ := exists_of_mem_forall₂ hname.flip ha
  have hnot := List.all_eq_true.mp (List.all_eq_true.mp hletters letters hmem) letter hletter
  rw [← hbracket, Bool.not_eq_true'] at hnot
  exact absurd (hagree.symm.trans hnot) (by decide)

/-! ## Closing tags -/

/-- Blanks before a closing bracket are passed over. -/
theorem dropWhile_isBlank_eq_iff {cs rest : List Char} :
    cs.dropWhile isBlank = '>' :: rest ↔
      ∃ blanks, (∀ c ∈ blanks, isBlank c = true) ∧ cs = blanks ++ '>' :: rest := by
  constructor
  · intro h
    obtain ⟨hblanks, -, heq⟩ := parted_iff.mp ⟨rfl, h⟩
    exact ⟨_, hblanks, heq⟩
  · rintro ⟨blanks, hblanks, heq⟩
    have hbracket : ∀ c ∈ ('>' :: rest).head?, isBlank c = false := by
      rintro c ⟨⟩
      decide
    exact (parted_iff.mpr ⟨hblanks, hbracket, heq⟩).2

/-- A name is passed over exactly if it stands at the front, in letters of any kind. -/
theorem dropSame?_eq_some_iff {name cs rest : List Char} :
    dropSame? name cs = some rest ↔
      ∃ written, List.Forall₂ (fun a b => sameLetter a b = true) name written ∧
        cs = written ++ rest := by
  rw [dropSame?_eq, Option.map_eq_some_iff]
  constructor
  · rintro ⟨⟨written, rest'⟩, htaken, rfl⟩
    exact ⟨written, takeAlike?_eq_some_iff.mp htaken⟩
  · rintro ⟨written, htaken⟩
    exact ⟨(written, rest), takeAlike?_eq_some_iff.mpr htaken, rfl⟩

/-- A closing tag is found exactly if one stands at the front. -/
theorem afterClosing?_eq_some_iff {name cs rest : List Char} :
    afterClosing? name cs = some rest ↔
      ∃ closing, IsClosing name closing ∧ cs = closing ++ rest := by
  constructor
  · intro h
    unfold afterClosing? at h
    split at h
    · rename_i more
      split at h
      · rename_i left hleft
        split at h
        · rename_i after hafter
          cases h
          obtain ⟨written, hwritten, rfl⟩ := dropSame?_eq_some_iff.mp hleft
          obtain ⟨blanks, hblanks, rfl⟩ := dropWhile_isBlank_eq_iff.mp hafter
          exact ⟨_, ⟨written, blanks, hwritten, hblanks, rfl⟩, by simp⟩
        · cases h
      · cases h
    · cases h
  · rintro ⟨closing, ⟨written, blanks, hwritten, hblanks, rfl⟩, rfl⟩
    have hsplit : '<' :: '/' :: (written ++ (blanks ++ ['>'])) ++ rest =
        '<' :: '/' :: (written ++ (blanks ++ '>' :: rest)) := by simp
    have hleft : dropSame? name (written ++ (blanks ++ '>' :: rest)) =
        some (blanks ++ '>' :: rest) := dropSame?_eq_some_iff.mpr ⟨written, hwritten, rfl⟩
    have hafter : (blanks ++ '>' :: rest).dropWhile isBlank = '>' :: rest :=
      dropWhile_isBlank_eq_iff.mpr ⟨blanks, hblanks, rfl⟩
    rw [hsplit, afterClosing?, hleft]
    dsimp only
    rw [hafter]
    rfl

/-- A closing tag has an opening bracket at its front and nowhere else. -/
theorem IsClosing.exists_cons {name closing : List Char} (h : IsClosing name closing)
    (hname : ∀ a ∈ name, simpleLower a ≠ '<') : ∃ rest, closing = '<' :: rest ∧ '<' ∉ rest := by
  obtain ⟨written, blanks, hwritten, hblanks, rfl⟩ := h
  have hletters : '<' ∉ written := by
    intro hmem
    obtain ⟨a, ha, hagree⟩ := exists_of_mem_forall₂ hwritten.flip hmem
    have hself : simpleLower '<' = '<' := by decide
    have hsame : simpleLower a = simpleLower '<' := by simpa [sameLetter] using hagree
    exact hname a ha (hsame.trans hself)
  have hspaces : '<' ∉ blanks := fun hmem => absurd (hblanks '<' hmem) (by decide)
  exact ⟨_, rfl, by simp [hletters, hspaces]⟩

/-! ## The first closing tag -/

/-- There is no closing tag in nothing. -/
theorem hasNoClosing_nil {name : List Char} (hname : ∀ a ∈ name, simpleLower a ≠ '<') :
    HasNoClosing name [] := by
  intro before closing after hclosing heq
  obtain ⟨tail, rfl, -⟩ := hclosing.exists_cons hname
  simp at heq

/-- A character before a body without a closing tag starts none if none is found there. -/
theorem HasNoClosing.cons {name body rest : List Char} {c : Char} (h : HasNoClosing name body)
    (hfront : afterClosing? name (c :: (body ++ rest)) = none) : HasNoClosing name (c :: body) := by
  intro before closing after hclosing heq
  cases before with
  | nil =>
    have hfound : afterClosing? name (c :: (body ++ rest)) = some (after ++ rest) := by
      refine afterClosing?_eq_some_iff.mpr ⟨closing, hclosing, ?_⟩
      rw [← List.cons_append, heq, List.nil_append, List.append_assoc]
    cases hfront.symm.trans hfound
  | cons d before => exact h before closing after hclosing (List.cons.inj heq).2

/-- A body without a closing tag has none without its first character. -/
theorem HasNoClosing.tail {name body : List Char} {c : Char} (h : HasNoClosing name (c :: body)) :
    HasNoClosing name body := by
  intro before closing after hclosing heq
  exact h (c :: before) closing after hclosing (by rw [heq, List.cons_append])

/-- Where a closing tag follows a body that has none, none starts at the front of the body. -/
theorem HasNoClosing.afterClosing?_eq_none {name body : List Char} {c : Char}
    (h : HasNoClosing name (c :: body)) (hname : ∀ a ∈ name, simpleLower a ≠ '<')
    {closing : List Char} (hclosing : IsClosing name closing) (rest : List Char) :
    afterClosing? name (c :: body ++ (closing ++ rest)) = none := by
  refine Option.eq_none_iff_forall_ne_some.mpr fun left hleft => ?_
  obtain ⟨other, hother, heq⟩ := afterClosing?_eq_some_iff.mp hleft
  rcases List.append_eq_append_iff.mp heq with ⟨excess, hexcess, hrest⟩ | ⟨more, hmore, -⟩
  · cases excess with
    | nil =>
      rw [List.append_nil] at hexcess
      exact h [] other [] hother (by rw [hexcess, List.append_nil, List.nil_append])
    | cons d excess =>
      -- the other tag would have the opening bracket of the one that follows inside of it
      obtain ⟨tail, rfl, -⟩ := hclosing.exists_cons hname
      obtain ⟨rfl, -⟩ := List.cons.inj hrest
      obtain ⟨inner, rfl, hinner⟩ := hother.exists_cons hname
      obtain ⟨-, rfl⟩ := List.cons.inj hexcess
      exact hinner (List.mem_append_right _ List.mem_cons_self)
  · exact h [] other more hother (by rw [hmore, List.nil_append])

/-- The reader stops at a closing tag. -/
theorem afterBlock?_closing {name closing : List Char} (h : IsClosing name closing)
    (rest : List Char) : afterBlock? name (closing ++ rest) = some rest := by
  have hfound : afterClosing? name (closing ++ rest) = some rest :=
    afterClosing?_eq_some_iff.mpr ⟨closing, h, rfl⟩
  obtain ⟨written, blanks, -, -, rfl⟩ := h
  rw [List.cons_append, afterBlock?, ← List.cons_append, hfound]

/-- The reader passes over a character where no closing tag is found. -/
theorem afterBlock?_cons {name rest : List Char} {c : Char}
    (h : afterClosing? name (c :: rest) = none) :
    afterBlock? name (c :: rest) = afterBlock? name rest := by
  rw [afterBlock?, h]

/-- **The reader stops at the first closing tag.** -/
theorem afterBlock?_eq_some_iff {name cs rest : List Char}
    (hname : ∀ a ∈ name, simpleLower a ≠ '<') :
    afterBlock? name cs = some rest ↔
      ∃ body closing, HasNoClosing name body ∧ IsClosing name closing ∧
        cs = body ++ (closing ++ rest) := by
  constructor
  · intro h
    induction cs with
    | nil => cases h
    | cons c more ih =>
      cases hfront : afterClosing? name (c :: more) with
      | some left =>
        rw [afterBlock?, hfront] at h
        cases h
        obtain ⟨closing, hclosing, heq⟩ := afterClosing?_eq_some_iff.mp hfront
        exact ⟨[], closing, hasNoClosing_nil hname, hclosing, heq⟩
      | none =>
        rw [afterBlock?_cons hfront] at h
        obtain ⟨body, closing, hbody, hclosing, rfl⟩ := ih h
        exact ⟨c :: body, closing, hbody.cons hfront, hclosing, rfl⟩
  · rintro ⟨body, closing, hbody, hclosing, rfl⟩
    induction body with
    | nil => exact afterBlock?_closing hclosing rest
    | cons c body ih =>
      have hfront := hbody.afterClosing?_eq_none hname hclosing rest
      exact (afterBlock?_cons hfront).trans (ih hbody.tail)

/-- Where the reader finds no end, there is no closing tag. -/
theorem hasNoClosing_of_afterBlock? {name body : List Char} (h : afterBlock? name body = none) :
    HasNoClosing name body := by
  rintro before closing after hclosing rfl
  induction before with
  | nil => cases h.symm.trans (afterBlock?_closing hclosing after)
  | cons c before ih =>
    rw [List.cons_append, afterBlock?] at h
    cases hfront : afterClosing? name (c :: (before ++ (closing ++ after))) with
    | some left =>
      rw [hfront] at h
      cases h
    | none =>
      rw [hfront] at h
      exact ih h

/-! ## Whole blocks -/

/-- The next closing bracket is found behind what has none. -/
theorem afterBracket?_eq_some_iff {cs rest : List Char} :
    afterBracket? cs = some rest ↔ ∃ before, '>' ∉ before ∧ cs = before ++ '>' :: rest := by
  constructor
  · intro h
    induction cs with
    | nil => cases h
    | cons c more ih =>
      rw [afterBracket?] at h
      by_cases hc : c = '>'
      · rw [if_pos hc] at h
        cases h
        exact ⟨[], List.not_mem_nil, by rw [hc, List.nil_append]⟩
      · rw [if_neg hc] at h
        obtain ⟨before, hbefore, rfl⟩ := ih h
        exact ⟨c :: before, List.not_mem_cons_of_ne_of_not_mem (Ne.symm hc) hbefore, rfl⟩
  · rintro ⟨before, hbefore, rfl⟩
    induction before with
    | nil => rw [List.nil_append, afterBracket?, if_pos rfl]
    | cons c before ih =>
      obtain ⟨hc, hrest⟩ := List.ne_and_not_mem_of_not_mem_cons hbefore
      rw [List.cons_append, afterBracket?, if_neg (Ne.symm hc), ih hrest]

/-- A closing bracket is no part of a word, so it ends the name of a block. -/
theorem startsWithWordChar_append (attributes rest : List Char) :
    startsWithWordChar (attributes ++ '>' :: rest) = startsWithWordChar attributes := by
  cases attributes with
  | nil =>
    show (isWordLetter '>' || '>' == '_') = false
    decide
  | cons c more => rfl

/-- A block is found exactly by its name, its attributes and what follows them. -/
theorem afterOpenBlock?_eq_some_iff {cs rest : List Char} :
    afterOpenBlock? cs = some rest ↔ ∃ name attributes more, IsBlockName name ∧
      startsWithWordChar attributes = false ∧ '>' ∉ attributes ∧
      afterBlock? name more = some rest ∧ cs = name ++ (attributes ++ '>' :: more) := by
  constructor
  · intro h
    unfold afterOpenBlock? at h
    split at h
    · rename_i name left hleft
      obtain ⟨hname, rfl⟩ := blockName?_eq_some_iff.mp hleft
      split at h
      · cases h
      · rename_i hword
        obtain ⟨more, hmore, hafter⟩ := Option.bind_eq_some_iff.mp h
        obtain ⟨attributes, hclosed, rfl⟩ := afterBracket?_eq_some_iff.mp hmore
        rw [startsWithWordChar_append, Bool.not_eq_true] at hword
        exact ⟨name, attributes, more, hname, hword, hclosed, hafter, rfl⟩
    · cases h
  · rintro ⟨name, attributes, more, hname, hword, hclosed, hafter, rfl⟩
    have hfound : blockName? (name ++ (attributes ++ '>' :: more)) =
        some (name, attributes ++ '>' :: more) := blockName?_eq_some_iff.mpr ⟨hname, rfl⟩
    have hmore : afterBracket? (attributes ++ '>' :: more) = some more :=
      afterBracket?_eq_some_iff.mpr ⟨attributes, hclosed, rfl⟩
    unfold afterOpenBlock?
    rw [hfound]
    dsimp only
    rw [startsWithWordChar_append, hword, hmore, Option.bind_some, hafter]
    rfl

/-- **The reader of blocks finds the blocks.** -/
theorem marks_block : Marks afterOpenBlock? IsBlock where
  found_iff := by
    intro cs rest
    rw [afterOpenBlock?_eq_some_iff]
    constructor
    · rintro ⟨name, attributes, more, hname, hword, hclosed, hafter, rfl⟩
      obtain ⟨body, closing, hbody, hclosing, rfl⟩ :=
        (afterBlock?_eq_some_iff hname.simpleLower_ne).mp hafter
      exact ⟨_, ⟨name, attributes, body, closing, hname, hword, hclosed, hbody, hclosing, rfl⟩,
        by simp⟩
    · rintro ⟨span, ⟨name, attributes, body, closing, hname, hword, hclosed, hbody, hclosing, rfl⟩,
        rfl⟩
      refine ⟨name, attributes, body ++ (closing ++ rest), hname, hword, hclosed, ?_, by simp⟩
      exact (afterBlock?_eq_some_iff hname.simpleLower_ne).mpr
        ⟨body, closing, hbody, hclosing, rfl⟩
  ends := by
    rintro span ⟨name, attributes, body, closing, -, -, -, -, ⟨written, blanks, -, -, rfl⟩, rfl⟩
    have hsplit : name ++ (attributes ++ '>' ::
          (body ++ '<' :: '/' :: (written ++ (blanks ++ ['>'])))) =
        name ++ attributes ++ '>' :: body ++ '<' :: '/' :: written ++ blanks ++ ['>'] := by simp
    rw [hsplit, List.getLast?_concat]

end Intake.Text.Markup
