import Intake.Proofs.Text.Blank
import Intake.Text.Markup

/-!
# Texts without markup

What `stripTags` gives has no angle brackets, and in a text without angle brackets it finds
nothing to take out.
-/

namespace Intake.Text

namespace Markup

/-- Spans that start with an opening bracket are nowhere in a text that has none. -/
theorem dropSpans_of_not_mem (after? : List Char → Option (List Char)) (fuel : Nat)
    {cs : List Char} (h : '<' ∉ cs) : dropSpans after? fuel cs = cs := by
  induction fuel generalizing cs with
  | zero => rw [dropSpans]
  | succ fuel ih =>
    cases cs with
    | nil => simp [dropSpans]
    | cons c rest =>
      obtain ⟨hc, hrest⟩ := List.ne_and_not_mem_of_not_mem_cons h
      rw [dropSpans, if_neg (Ne.symm hc), ih hrest]

end Markup

/-- No character of a text is an angle bracket. -/
def IsBracketFree (s : String) : Prop := ∀ c ∈ s.toList, Markup.isBracket c = false

-- Named, since a bounded quantifier over characters can also be decided by trying every character.
instance (s : String) : Decidable (IsBracketFree s) := List.decidableBAll _ s.toList

/-- Text without brackets has neither an opening bracket nor a closing one. -/
theorem IsBracketFree.not_mem {s : String} (h : IsBracketFree s) :
    '<' ∉ s.toList ∧ '>' ∉ s.toList :=
  ⟨fun hmem => absurd (h '<' hmem) (by decide), fun hmem => absurd (h '>' hmem) (by decide)⟩

/-- A text that was stripped of its tags has no angle brackets. -/
theorem isBracketFree_stripTags (s : String) : IsBracketFree (stripTags s) := by
  intro c hc
  rw [stripTags, String.toList_ofList, Markup.dropBrackets, List.mem_filter] at hc
  simpa using hc.2

/-- Nothing is stripped off a text without angle brackets. -/
theorem stripTags_of_isBracketFree {s : String} (h : IsBracketFree s) : stripTags s = s := by
  obtain ⟨hopening, -⟩ := h.not_mem
  rw [stripTags, Markup.dropBlocks, Markup.dropSpans_of_not_mem _ _ hopening, Markup.dropTags,
    Markup.dropSpans_of_not_mem _ _ hopening, Markup.dropBrackets,
    List.filter_eq_self.mpr (by simpa [IsBracketFree] using h), String.ofList_toList]

/-- There are no angle brackets among blanks. -/
theorem isBracketFree_of_isBlankText {s : String} (h : isBlankText s = true) :
    IsBracketFree s := by
  intro c hc
  have hblank : isBlank c = true := List.all_eq_true.mp h c hc
  cases hbracket : Markup.isBracket c with
  | false => rfl
  | true =>
    rw [Markup.isBracket, Bool.or_eq_true, beq_iff_eq, beq_iff_eq] at hbracket
    rcases hbracket with rfl | rfl
    · exact absurd hblank (by decide)
    · exact absurd hblank (by decide)

/-- Stripping blanks puts no angle brackets in. -/
theorem IsBracketFree.strip {s : String} (h : IsBracketFree s) : IsBracketFree (strip s) :=
  fun c hc => h c (mem_of_mem_strip hc)

/-- Collapsing blanks puts no angle brackets in. -/
theorem IsBracketFree.collapseBlanks {s : String} (h : IsBracketFree s) :
    IsBracketFree (collapseBlanks s) := by
  intro c hc
  rcases mem_of_mem_collapseBlanks hc with rfl | hmem
  · rfl
  · exact h c hmem

end Intake.Text
