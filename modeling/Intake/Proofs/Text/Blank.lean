import Intake.Text.Blank
import Mathlib.Data.List.DropRight
import Mathlib.Data.List.TakeWhile

/-!
# Texts without blanks at their ends

`strip` and `collapseBlanks` bring a text to a form in which they have nothing left to do.

* `parted_iff` says that taking characters of a kind off the front parts a text in one way;
* `Trimmed` holds of characters with no blank at either end: what `strip` gives is trimmed, and
  a trimmed text is all that `strip` gives for it;
* `Solid` holds of words, which are not empty and have no blank in them: `words` cuts a text
  into solid words, and finds solid words again that have been joined by spaces;
* `collapseBlanks_idem` and `isTrimmed_collapseBlanks` follow.
-/

namespace Intake.Text

/-- **A text parts in one way.**  The characters of a kind are taken off the front up to the first
one of another kind. -/
theorem parted_iff {p : Char → Bool} {cs front rest : List Char} :
    cs.takeWhile p = front ∧ cs.dropWhile p = rest ↔
      (∀ c ∈ front, p c = true) ∧ (∀ c ∈ rest.head?, p c = false) ∧ cs = front ++ rest := by
  constructor
  · rintro ⟨rfl, rfl⟩
    refine ⟨fun c hc => List.mem_takeWhile_imp hc, ?_, List.takeWhile_append_dropWhile.symm⟩
    intro c hc
    have hstop := List.head?_dropWhile_not p cs
    rw [hc] at hstop
    simpa using hstop
  · rintro ⟨hfront, hstop, rfl⟩
    have hrest : rest.takeWhile p = [] ∧ rest.dropWhile p = rest := by
      cases rest with
      | nil => exact ⟨rfl, rfl⟩
      | cons c rest =>
        have hc : ¬ p c = true := by simpa using hstop c rfl
        exact ⟨List.takeWhile_cons_of_neg hc, List.dropWhile_cons_of_neg hc⟩
    rw [List.takeWhile_append_of_pos hfront, List.dropWhile_append_of_pos hfront, hrest.1, hrest.2,
      List.append_nil]
    exact ⟨rfl, rfl⟩

/-- There is no blank at either end. -/
def Trimmed (cs : List Char) : Prop :=
  (∀ c ∈ cs.head?, isBlank c = false) ∧ ∀ c ∈ cs.getLast?, isBlank c = false

/-- No characters have no blank at either end. -/
theorem Trimmed.nil : Trimmed [] := ⟨by simp, by simp⟩

/-- Dropping the blanks at both ends leaves none there. -/
theorem trimmed_stripChars (cs : List Char) : Trimmed (stripChars cs) := by
  constructor
  · intro c hc
    have hhead : (stripChars cs).head? = ((cs.dropWhile isBlank).rdropWhile isBlank).head? := rfl
    -- what is dropped at the right leaves the first character, unless it leaves none
    obtain ⟨dropped, hdropped⟩ := List.rdropWhile_prefix isBlank (cs.dropWhile isBlank)
    have hfirst : (cs.dropWhile isBlank).head? = some c := by
      rw [← hdropped, List.head?_append, ← hhead, hc]
      rfl
    exact (parted_iff.mp ⟨rfl, rfl⟩).2.1 c hfirst
  · intro c hc
    have hlast : (stripChars cs).getLast? =
        (((cs.dropWhile isBlank).reverse).dropWhile isBlank).head? := by
      rw [stripChars, List.getLast?_reverse]
    rw [hlast] at hc
    exact (parted_iff.mp ⟨rfl, rfl⟩).2.1 c hc

/-- Where no blank is at the front, none is dropped there. -/
theorem dropWhile_isBlank_of_head? {cs : List Char}
    (h : ∀ c ∈ cs.head?, isBlank c = false) : cs.dropWhile isBlank = cs :=
  (parted_iff.mpr ⟨by simp, h, (List.nil_append cs).symm⟩).2

/-- Where no blank is at either end, none is dropped. -/
theorem Trimmed.stripChars_eq {cs : List Char} (h : Trimmed cs) : stripChars cs = cs := by
  have hlast : ∀ c ∈ cs.reverse.head?, isBlank c = false := by
    rw [List.head?_reverse]
    exact h.2
  rw [stripChars, dropWhile_isBlank_of_head? h.1, dropWhile_isBlank_of_head? hlast,
    List.reverse_reverse]

/-- Dropping blanks puts no character in. -/
theorem mem_of_mem_stripChars {cs : List Char} {c : Char} (h : c ∈ stripChars cs) : c ∈ cs := by
  have hleft := List.dropWhile_subset (l := (cs.dropWhile isBlank).reverse) isBlank
  exact List.dropWhile_subset isBlank
    (List.mem_reverse.mp (hleft (List.mem_reverse.mp h)))

/-- What is left when blanks are dropped stood there in one piece. -/
theorem isInfix_stripChars (cs : List Char) : stripChars cs <:+: cs := by
  have hright : stripChars cs <+: cs.dropWhile isBlank :=
    List.rdropWhile_prefix isBlank (cs.dropWhile isBlank)
  exact hright.isInfix.trans (List.dropWhile_suffix isBlank).isInfix

/-- Blanks around some characters are dropped with those at their ends. -/
theorem stripChars_append {before cs after : List Char} (hbefore : ∀ c ∈ before, isBlank c = true)
    (hafter : ∀ c ∈ after, isBlank c = true) :
    stripChars (before ++ cs ++ after) = stripChars cs := by
  have hnone : after.dropWhile isBlank = [] := List.dropWhile_eq_nil_iff.mpr hafter
  have hback : ∀ c ∈ after.reverse, isBlank c = true :=
    fun c hc => hafter c (List.mem_reverse.mp hc)
  unfold stripChars
  rw [List.append_assoc, List.dropWhile_append_of_pos hbefore, List.dropWhile_append]
  split
  · rename_i hempty
    rw [hnone, List.isEmpty_iff.mp hempty]
  · rw [List.reverse_append, List.dropWhile_append_of_pos hback]

/-- A text has no blank at either end. -/
def IsTrimmed (s : String) : Prop := Trimmed s.toList

/-- A stripped text has no blank at either end. -/
theorem isTrimmed_strip (s : String) : IsTrimmed (strip s) := by
  rw [IsTrimmed, strip, String.toList_ofList]
  exact trimmed_stripChars s.toList

/-- Nothing is stripped off a text without a blank at either end. -/
theorem strip_of_isTrimmed {s : String} (h : IsTrimmed s) : strip s = s := by
  rw [strip, Trimmed.stripChars_eq h, String.ofList_toList]

/-- Nothing is left of a text that holds nothing but blanks. -/
theorem strip_of_isBlankText {s : String} (h : isBlankText s = true) : strip s = "" := by
  have hnone : s.toList.dropWhile isBlank = [] :=
    List.dropWhile_eq_nil_iff.mpr fun c hc => List.all_eq_true.mp h c hc
  rw [strip, stripChars, hnone]
  rfl

/-- Blanks around a text are stripped with those at its ends. -/
theorem strip_append {before s after : String} (hbefore : isBlankText before = true)
    (hafter : isBlankText after = true) : strip (before ++ s ++ after) = strip s := by
  rw [strip, String.toList_append, String.toList_append,
    stripChars_append (List.all_eq_true.mp hbefore) (List.all_eq_true.mp hafter), strip]

/-- Stripping puts no character in. -/
theorem mem_of_mem_strip {s : String} {c : Char} (h : c ∈ (strip s).toList) : c ∈ s.toList := by
  rw [strip, String.toList_ofList] at h
  exact mem_of_mem_stripChars h

/-- A word: at least one character, and no blank among them. -/
def Solid (word : List Char) : Prop :=
  word ≠ [] ∧ ∀ c ∈ word, isBlank c = false

/-- A text is cut into words that have no blank in them. -/
theorem solid_of_mem_wordsAfter {word cs : List Char} (hword : ∀ c ∈ word, isBlank c = false) :
    ∀ w ∈ wordsAfter word cs, Solid w := by
  have hreverse : ∀ {word : List Char}, word ≠ [] → (∀ c ∈ word, isBlank c = false) →
      Solid word.reverse := fun hne hsolid => ⟨by simpa using hne, by simpa using hsolid⟩
  induction cs generalizing word with
  | nil =>
    intro w hw
    by_cases hempty : word = []
    · simp [wordsAfter, hempty] at hw
    · obtain rfl : w = word.reverse := by simpa [wordsAfter, hempty] using hw
      exact hreverse hempty hword
  | cons c rest ih =>
    intro w hw
    cases hblank : isBlank c with
    | true =>
      by_cases hempty : word = []
      · simp only [wordsAfter, hblank, hempty, List.isEmpty_nil, if_true] at hw
        exact ih (by simp) w hw
      · simp only [wordsAfter, hblank, if_true, List.isEmpty_iff, hempty, if_false,
          List.mem_cons] at hw
        rcases hw with rfl | hw
        · exact hreverse hempty hword
        · exact ih (by simp) w hw
    | false =>
      simp only [wordsAfter, hblank, Bool.false_eq_true, if_false] at hw
      exact ih (List.forall_mem_cons.mpr ⟨hblank, hword⟩) w hw

/-- Characters that are no blanks are read into the word at hand. -/
theorem wordsAfter_append {part : List Char} (hpart : ∀ c ∈ part, isBlank c = false)
    (word rest : List Char) :
    wordsAfter word (part ++ rest) = wordsAfter (part.reverse ++ word) rest := by
  induction part generalizing word with
  | nil => rfl
  | cons c part ih =>
    obtain ⟨hc, hpart⟩ := List.forall_mem_cons.mp hpart
    rw [List.cons_append, wordsAfter, hc, if_neg (by simp), ih hpart, List.reverse_cons,
      List.append_assoc]
    rfl

/-- A space is a blank. -/
theorem isBlank_space : isBlank ' ' = true := rfl

/-- Words joined by spaces are found again. -/
theorem wordsAfter_intercalate {ws : List (List Char)} (hws : ∀ w ∈ ws, Solid w) :
    wordsAfter [] ([' '].intercalate ws) = ws := by
  induction ws with
  | nil => rfl
  | cons w rest ih =>
    obtain ⟨⟨hne, hsolid⟩, hrest⟩ := List.forall_mem_cons.mp hws
    have hword : w.reverse.isEmpty = false := by simpa using hne
    cases rest with
    | nil =>
      have := wordsAfter_append hsolid [] []
      rw [List.append_nil, List.append_nil] at this
      simp [this, wordsAfter, hne]
    | cons w' rest =>
      rw [List.intercalate_cons_cons, List.append_assoc, wordsAfter_append hsolid,
        List.append_nil, List.singleton_append, wordsAfter, isBlank_space, if_pos rfl, hword,
        if_neg (by simp), ih hrest, List.reverse_reverse]

/-- The characters of a text whose blanks are collapsed: its words, with spaces between. -/
theorem toList_collapseBlanks (s : String) :
    (collapseBlanks s).toList = [' '].intercalate (wordsAfter [] s.toList) := by
  have hwords : (words s).map String.toList = wordsAfter [] s.toList := by
    simp [words, List.map_map, Function.comp_def]
  rw [collapseBlanks, String.toList_intercalate, hwords]
  rfl

/-- The words of a text have no blank in them. -/
theorem solid_words (s : String) : ∀ w ∈ wordsAfter [] s.toList, Solid w :=
  solid_of_mem_wordsAfter (by simp)

/-- Collapsed blanks stay as they are. -/
theorem collapseBlanks_idem (s : String) :
    collapseBlanks (collapseBlanks s) = collapseBlanks s := by
  apply String.toList_inj.mp
  rw [toList_collapseBlanks, toList_collapseBlanks, wordsAfter_intercalate (solid_words s)]

/-- Words joined by spaces start with a word and end with one. -/
theorem trimmed_intercalate {ws : List (List Char)} (hws : ∀ w ∈ ws, Solid w) :
    Trimmed ([' '].intercalate ws) := by
  induction ws with
  | nil => exact Trimmed.nil
  | cons w rest ih =>
    obtain ⟨⟨hne, hsolid⟩, hrest⟩ := List.forall_mem_cons.mp hws
    have hfirst : ∀ more, ∀ c ∈ (w ++ more).head?, isBlank c = false := by
      intro more c hc
      cases w with
      | nil => exact absurd rfl hne
      | cons d w =>
        obtain rfl : d = c := by simpa using hc
        exact hsolid d (by simp)
    cases rest with
    | nil =>
      rw [List.intercalate_singleton]
      exact ⟨by simpa using hfirst [], fun c hc => hsolid c (List.mem_of_getLast? hc)⟩
    | cons w' rest =>
      rw [List.intercalate_cons_cons, List.append_assoc]
      refine ⟨hfirst _, fun c hc => (ih hrest).2 c ?_⟩
      -- the rest is not empty, as its first word is not
      have hmore : [' '].intercalate (w' :: rest) ≠ [] := by
        obtain ⟨⟨hne', -⟩, -⟩ := List.forall_mem_cons.mp hrest
        cases rest <;> simp [hne']
      rwa [← List.append_assoc, List.getLast?_append_of_ne_nil _ hmore] at hc

/-- A text whose blanks are collapsed has none at either end. -/
theorem isTrimmed_collapseBlanks (s : String) : IsTrimmed (collapseBlanks s) := by
  rw [IsTrimmed, toList_collapseBlanks]
  exact trimmed_intercalate (solid_words s)

/-- Every character of a word is one of the text, or was read before. -/
theorem mem_of_mem_wordsAfter {word cs w : List Char} {c : Char} (hw : w ∈ wordsAfter word cs)
    (hc : c ∈ w) : c ∈ word ∨ c ∈ cs := by
  induction cs generalizing word with
  | nil =>
    by_cases hempty : word = []
    · simp [wordsAfter, hempty] at hw
    · obtain rfl : w = word.reverse := by simpa [wordsAfter, hempty] using hw
      exact .inl (by simpa using hc)
  | cons d rest ih =>
    rw [wordsAfter] at hw
    have hnew : w ∈ wordsAfter [] rest → c ∈ word ∨ c ∈ d :: rest := fun hlater =>
      .inr (List.mem_cons_of_mem d ((ih hlater).resolve_left (by simp)))
    split at hw
    · split at hw
      · exact hnew hw
      · rcases List.mem_cons.mp hw with rfl | hw
        · exact .inl (by simpa using hc)
        · exact hnew hw
    · rcases ih hw with hword | hrest
      · rcases List.mem_cons.mp hword with rfl | hword
        · exact .inr (by simp)
        · exact .inl hword
      · exact .inr (List.mem_cons_of_mem d hrest)

/-- What stands in joined pieces stands in one of them, or joins them. -/
theorem mem_of_mem_intercalate {ws : List (List Char)} {joint c : Char}
    (h : c ∈ [joint].intercalate ws) : c = joint ∨ ∃ w ∈ ws, c ∈ w := by
  induction ws with
  | nil => simp at h
  | cons w rest ih =>
    cases rest with
    | nil => exact .inr ⟨w, by simp, by simpa using h⟩
    | cons w' rest =>
      rw [List.intercalate_cons_cons, List.mem_append, List.mem_append] at h
      rcases h with (hw | hjoint) | hlater
      · exact .inr ⟨w, by simp, hw⟩
      · exact .inl (by simpa using hjoint)
      · rcases ih hlater with hjoint | ⟨v, hv, hc⟩
        · exact .inl hjoint
        · exact .inr ⟨v, List.mem_cons_of_mem w hv, hc⟩

/-- Collapsing blanks puts no character in but spaces. -/
theorem mem_of_mem_collapseBlanks {s : String} {c : Char} (h : c ∈ (collapseBlanks s).toList) :
    c = ' ' ∨ c ∈ s.toList := by
  rw [toList_collapseBlanks] at h
  rcases mem_of_mem_intercalate h with hspace | ⟨w, hw, hc⟩
  · exact .inl hspace
  · exact .inr ((mem_of_mem_wordsAfter hw hc).resolve_left (by simp))

/-- A text without blanks has none to collapse. -/
theorem collapseBlanks_of_forall {s : String} (h : ∀ c ∈ s.toList, isBlank c = false) :
    collapseBlanks s = s := by
  apply String.toList_inj.mp
  have hwords := wordsAfter_append h [] []
  rw [List.append_nil, List.append_nil] at hwords
  rw [toList_collapseBlanks, hwords, wordsAfter]
  by_cases hempty : s.toList = []
  · simp [hempty]
  · simp [hempty]

/-- A text without blanks has none at either end. -/
theorem isTrimmed_of_forall {s : String} (h : ∀ c ∈ s.toList, isBlank c = false) :
    IsTrimmed s :=
  ⟨fun c hc => h c (List.mem_of_head? hc), fun c hc => h c (List.mem_of_getLast? hc)⟩

end Intake.Text
