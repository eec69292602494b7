import Intake.Proofs.Value.CanonicalText
import Mathlib.Data.List.Basic

/-!
# Written values are read in one way

The text of a value is a word, a quoted text, a list between brackets or a record between
braces.  Its first character says which, and from there it can be told where the text ends, if
what follows is nothing or a comma or closes what is open.  So lists are told apart by their
parts, and records by their entries.

* `IsWritten` holds of the texts of values;
* `IsWritten.isBounded` says that a text tells where it ends;
* `parts_inj` takes a list apart into its parts, `entries_inj` a record into its entries.
-/

namespace Intake.Value

/-- Can `c` stand in a word: is it a letter, a digit, a point or a sign? -/
def isWordChar (c : Char) : Bool := c.isAlphanum || c == '.' || c == '+' || c == '-'

/-- Pieces with commas between them. -/
def joined (pieces : List (List Char)) : List Char := [',', ' '].intercalate pieces

/-- An entry of a record: a quoted key and a text. -/
def entryChars (entry : String × List Char) : List Char :=
  (canonicalText entry.1).toList ++ ':' :: ' ' :: entry.2

/-- The texts of values. -/
inductive IsWritten : List Char → Prop where
  | word {cs : List Char} (hne : cs ≠ []) (h : ∀ c ∈ cs, isWordChar c = true) : IsWritten cs
  | text (s : String) : IsWritten (canonicalText s).toList
  | list {parts : List (List Char)} (h : ∀ part ∈ parts, IsWritten part) :
      IsWritten ('[' :: (joined parts ++ [']']))
  | record {entries : List (String × List Char)} (h : ∀ entry ∈ entries, IsWritten entry.2) :
      IsWritten ('\x7b' :: (joined (entries.map entryChars) ++ ['\x7d']))

/-- Does `c` stand behind a value? -/
def isCloser (c : Char) : Bool := c == ',' || c == ']' || c == '\x7d'

/-- What can follow a value: nothing, or a comma or closing bracket and more. -/
def IsEnd (rest : List Char) : Prop := ∀ c ∈ rest.head?, isCloser c = true

/-- What starts with a character that does not stand behind a value. -/
def IsStarted (piece : List Char) : Prop := ∃ c more, piece = c :: more ∧ isCloser c = false

/-- A piece is **bounded** among some others if, with an end behind it, it starts like one of them
with an end behind it only where it is that one. -/
def IsBounded (P : List Char → Prop) (piece : List Char) : Prop :=
  ∀ {other rest rest' : List Char}, P other → IsEnd rest → IsEnd rest' →
    piece ++ rest = other ++ rest' → piece = other

/-- The text of a value is started. -/
theorem IsWritten.isStarted {cs : List Char} (h : IsWritten cs) : IsStarted cs := by
  cases h with
  | word hne h =>
    obtain ⟨c, more, rfl⟩ := List.exists_cons_of_ne_nil hne
    refine ⟨c, more, rfl, Bool.eq_false_iff.mpr fun hcloser => ?_⟩
    have hword := h c (by simp)
    simp only [isCloser, Bool.or_eq_true, beq_iff_eq] at hcloser
    rcases hcloser with (rfl | rfl) | rfl <;> exact absurd hword (by decide)
  | text s => exact ⟨'"', _, toList_canonicalText s, rfl⟩
  | list h => exact ⟨'[', _, rfl, rfl⟩
  | record h => exact ⟨'\x7b', _, rfl, rfl⟩

/-- An entry is started, namely with the quote of its key. -/
theorem isStarted_entryChars (entry : String × List Char) : IsStarted (entryChars entry) := by
  rw [entryChars, toList_canonicalText]
  exact ⟨'"', _, rfl, rfl⟩

/-- What starts with a closer is an end. -/
theorem isEnd_cons {close : Char} {rest : List Char} (h : isCloser close = true) :
    IsEnd (close :: rest) := by
  rintro c hc
  obtain rfl : close = c := by simpa using hc
  exact h

/-- What is started is no end. -/
theorem IsStarted.not_isEnd {piece rest : List Char} (h : IsStarted piece) :
    ¬ IsEnd (piece ++ rest) := by
  intro hend
  obtain ⟨c, more, rfl, hc⟩ := h
  rw [hend c rfl] at hc
  cases hc

/-- Joined pieces are the first, and the others each behind a comma. -/
theorem joined_cons (piece : List Char) (more : List (List Char)) :
    joined (piece :: more) = piece ++ more.flatMap fun p => ',' :: ' ' :: p := by
  induction more generalizing piece with
  | nil => simp [joined]
  | cons next more ih =>
    rw [joined, List.intercalate_cons_cons, ← joined, ih, List.flatMap_cons, List.append_assoc]
    rfl

/-- Pieces behind commas are an end. -/
theorem isEnd_flatMap (pieces : List (List Char)) {rest : List Char} (h : IsEnd rest) :
    IsEnd ((pieces.flatMap fun p => ',' :: ' ' :: p) ++ rest) := by
  cases pieces with
  | nil => exact h
  | cons piece more => exact isEnd_cons rfl

section Joined

variable {P : List Char → Prop} {close : Char} {rest rest' : List Char}

/-- **Pieces behind commas are taken apart in one way**, where each of the first is bounded among
the second. -/
theorem flatMap_inj (hcloser : isCloser close = true) (hcomma : close ≠ ',')
    {pieces others : List (List Char)} (hbounded : ∀ piece ∈ pieces, IsBounded P piece)
    (hothers : ∀ other ∈ others, P other)
    (h : (pieces.flatMap fun p => ',' :: ' ' :: p) ++ close :: rest =
      (others.flatMap fun p => ',' :: ' ' :: p) ++ close :: rest') :
    pieces = others ∧ rest = rest' := by
  induction pieces generalizing others with
  | nil =>
    cases others with
    | nil => exact ⟨rfl, by simpa using h⟩
    | cons other others =>
      cases h
      exact absurd rfl hcomma
  | cons piece pieces ih =>
    cases others with
    | nil =>
      cases h
      exact absurd rfl hcomma
    | cons other others =>
      obtain ⟨hpiece, hpieces⟩ := List.forall_mem_cons.mp hbounded
      obtain ⟨hother, hothers⟩ := List.forall_mem_cons.mp hothers
      simp only [List.flatMap_cons, List.cons_append, List.append_assoc, List.cons.injEq,
        true_and] at h
      have hsame := hpiece hother (isEnd_flatMap pieces (isEnd_cons hcloser))
        (isEnd_flatMap others (isEnd_cons hcloser)) h
      rw [hsame] at h ⊢
      obtain ⟨rfl, hrest⟩ := ih hpieces hothers (List.append_cancel_left h)
      exact ⟨rfl, hrest⟩

/-- **Joined pieces are taken apart in one way.** -/
theorem joined_inj (hcloser : isCloser close = true) (hcomma : close ≠ ',')
    {pieces others : List (List Char)} (hbounded : ∀ piece ∈ pieces, IsBounded P piece)
    (hothers : ∀ other ∈ others, P other)
    (hstarted : ∀ piece ∈ pieces ++ others, IsStarted piece)
    (h : joined pieces ++ close :: rest = joined others ++ close :: rest') :
    pieces = others ∧ rest = rest' := by
  cases pieces with
  | nil =>
    cases others with
    | nil => exact ⟨rfl, by simpa [joined] using h⟩
    | cons other others =>
      rw [joined_cons, List.append_assoc] at h
      have hclose : IsEnd (joined [] ++ close :: rest) := isEnd_cons hcloser
      rw [h] at hclose
      exact absurd hclose (hstarted other (by simp)).not_isEnd
  | cons piece pieces =>
    cases others with
    | nil =>
      rw [joined_cons, List.append_assoc] at h
      have hclose : IsEnd (joined [] ++ close :: rest') := isEnd_cons hcloser
      rw [← h] at hclose
      exact absurd hclose (hstarted piece (by simp)).not_isEnd
    | cons other others =>
      rw [joined_cons, joined_cons] at h
      -- with a comma before the first pieces as well, all stand behind commas
      refine flatMap_inj hcloser hcomma hbounded hothers ?_
      rw [List.flatMap_cons, List.flatMap_cons]
      exact congrArg (fun cs => ',' :: ' ' :: cs) h

end Joined

/-- Words are taken off the front of a text as far as there are characters of words. -/
theorem takeWhile_word {cs rest : List Char} (h : ∀ c ∈ cs, isWordChar c = true)
    (hrest : IsEnd rest) : (cs ++ rest).takeWhile isWordChar = cs := by
  rw [List.takeWhile_append_of_pos h]
  cases rest with
  | nil => simp
  | cons c rest =>
    have hc := hrest c rfl
    simp only [isCloser, Bool.or_eq_true, beq_iff_eq] at hc
    rcases hc with (rfl | rfl) | rfl <;> simp [isWordChar]

/-- An entry is bounded among entries if its text is bounded among texts. -/
theorem isBounded_entryChars {entry : String × List Char} (h : IsBounded IsWritten entry.2) :
    IsBounded (fun cs => ∃ e : String × List Char, IsWritten e.2 ∧ cs = entryChars e)
      (entryChars entry) := by
  rintro _ rest rest' ⟨e, he, rfl⟩ hrest hrest' heq
  simp only [entryChars, List.append_assoc, List.cons_append] at heq ⊢
  obtain ⟨hkey, heq⟩ := canonicalText_inj heq
  rw [hkey, h he hrest hrest' (by simpa using heq)]

/-- Entries are told apart by their characters. -/
theorem entryChars_injective : Function.Injective entryChars := by
  rintro ⟨key, text⟩ ⟨key', text'⟩ h
  obtain ⟨rfl, htext⟩ := canonicalText_inj h
  exact Prod.ext rfl (by simpa using htext)

/-- **A list is taken apart in one way**, into bounded parts. -/
theorem parts_inj {parts others : List (List Char)} {rest rest' : List Char}
    (hparts : ∀ part ∈ parts, IsWritten part ∧ IsBounded IsWritten part)
    (hothers : ∀ part ∈ others, IsWritten part)
    (h : joined parts ++ ']' :: rest = joined others ++ ']' :: rest') : parts = others := by
  have hstarted : ∀ part ∈ parts ++ others, IsStarted part := List.forall_mem_append.mpr
    ⟨fun part hp => (hparts part hp).1.isStarted, fun part hp => (hothers part hp).isStarted⟩
  have hcomma : ']' ≠ ',' := by decide
  exact (joined_inj rfl hcomma (fun part hp => (hparts part hp).2) hothers hstarted h).1

/-- **A record is taken apart in one way**, into entries with bounded texts. -/
theorem entries_inj {entries others : List (String × List Char)} {rest rest' : List Char}
    (hentries : ∀ e ∈ entries, IsBounded IsWritten e.2) (hothers : ∀ e ∈ others, IsWritten e.2)
    (h : joined (entries.map entryChars) ++ '\x7d' :: rest =
      joined (others.map entryChars) ++ '\x7d' :: rest') : entries = others := by
  have hbounded : ∀ piece ∈ entries.map entryChars,
      IsBounded (fun cs => ∃ e : String × List Char, IsWritten e.2 ∧ cs = entryChars e) piece := by
    intro piece hpiece
    obtain ⟨e, he, rfl⟩ := List.mem_map.mp hpiece
    exact isBounded_entryChars (hentries e he)
  have hwritten : ∀ piece ∈ others.map entryChars,
      ∃ e : String × List Char, IsWritten e.2 ∧ piece = entryChars e := by
    intro piece hpiece
    obtain ⟨e, he, rfl⟩ := List.mem_map.mp hpiece
    exact ⟨e, hothers e he, rfl⟩
  have hstarted : ∀ piece ∈ entries.map entryChars ++ others.map entryChars, IsStarted piece := by
    intro piece hpiece
    rw [← List.map_append] at hpiece
    obtain ⟨e, -, rfl⟩ := List.mem_map.mp hpiece
    exact isStarted_entryChars e
  have hcomma : '\x7d' ≠ ',' := by decide
  exact List.map_injective_iff.mpr entryChars_injective
    (joined_inj rfl hcomma hbounded hwritten hstarted h).1

/-- Texts with different first characters are different, whatever follows them. -/
theorem append_ne_of_head {a b rest rest' : List Char} {x y : Char} (ha : a.head? = some x)
    (hb : b.head? = some y) (hne : x ≠ y) : a ++ rest ≠ b ++ rest' := by
  intro h
  have hhead := congrArg List.head? h
  rw [List.head?_append, List.head?_append, ha, hb] at hhead
  exact hne (by simpa using hhead)

/-- The first character of a quoted text. -/
theorem head?_canonicalText (s : String) : (canonicalText s).toList.head? = some '"' := by
  rw [toList_canonicalText]
  rfl

/-- A word differs from what starts with a character that stands in no word. -/
theorem word_append_ne {cs b rest rest' : List Char} (hne : cs ≠ [])
    (h : ∀ c ∈ cs, isWordChar c = true) {y : Char} (hb : b.head? = some y)
    (hy : isWordChar y = false) : cs ++ rest ≠ b ++ rest' := by
  obtain ⟨c, more, rfl⟩ := List.exists_cons_of_ne_nil hne
  refine append_ne_of_head rfl hb ?_
  rintro rfl
  rw [h c (by simp)] at hy
  cases hy

/-- **The text of a value tells where it ends.** -/
theorem IsWritten.isBounded {cs : List Char} (h : IsWritten cs) : IsBounded IsWritten cs := by
  induction h with
  | word hne h =>
    intro other rest rest' hother hrest hrest' heq
    cases hother with
    | word _ hother =>
      rw [← takeWhile_word h hrest, heq, takeWhile_word hother hrest']
    | text s => exact absurd heq (word_append_ne hne h (head?_canonicalText s) rfl)
    | list => exact absurd heq (word_append_ne hne h rfl rfl)
    | record => exact absurd heq (word_append_ne hne h rfl rfl)
  | text s =>
    intro other rest rest' hother hrest hrest' heq
    have hquote := head?_canonicalText s
    cases hother with
    | word hne hother => exact absurd heq.symm (word_append_ne hne hother hquote rfl)
    | text t => rw [(canonicalText_inj heq).1]
    | list => exact absurd heq (append_ne_of_head hquote rfl (by decide))
    | record => exact absurd heq (append_ne_of_head hquote rfl (by decide))
  | list h ih =>
    intro other rest rest' hother hrest hrest' heq
    cases hother with
    | word hne hother => exact absurd heq.symm (word_append_ne hne hother rfl rfl)
    | text t => exact absurd heq (append_ne_of_head rfl (head?_canonicalText t) (by decide))
    | list hother =>
      rw [parts_inj (fun part hp => ⟨h part hp, ih part hp⟩) hother (by simpa using heq)]
    | record => exact absurd heq (append_ne_of_head rfl rfl (by decide))
  | record h ih =>
    intro other rest rest' hother hrest hrest' heq
    cases hother with
    | word hne hother => exact absurd heq.symm (word_append_ne hne hother rfl rfl)
    | text t => exact absurd heq (append_ne_of_head rfl (head?_canonicalText t) (by decide))
    | list => exact absurd heq (append_ne_of_head rfl rfl (by decide))
    | record hother => rw [entries_inj ih hother (by simpa using heq)]

end Intake.Value
