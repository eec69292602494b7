import Intake.Proofs.Text.Markup

/-!
# Spans that are taken out

`dropSpans` goes from left to right and asks at every opening bracket whether a span starts there
and what follows it.  All that the surroundings of a text can do to the spans inside it depends on
two facts about the reader that it asks: which spans the reader finds, and that every one of them
ends in a closing bracket.  A text without brackets therefore cannot complete a span that was begun
before it, nor can it prevent one.

* `Marks` is those two facts;
* `Marks.append` says that text without a closing bracket does not change what a reader finds;
* `Marks.dropSpans_between` says that text without brackets stays, on either side, and
  `Marks.dropSpans_span` that a span goes, whatever follows it;
* `Marks.sublist_dropSpans` says that nothing is put in.
-/

namespace Intake.Text.Markup

/-- A reader **marks** the spans of a kind.  It finds what follows a span exactly if one stands at
the front, and every span ends in a closing bracket.  The opening bracket is not counted. -/
structure Marks (after? : List Char → Option (List Char)) (IsSpan : List Char → Prop) : Prop where
  found_iff : ∀ {cs rest}, after? cs = some rest ↔ ∃ span, IsSpan span ∧ cs = span ++ rest
  ends : ∀ {span}, IsSpan span → span.getLast? = some '>'

/-! ## One step -/

section Step

variable (after? : List Char → Option (List Char)) (fuel : Nat)

/-- A character other than an opening bracket stays. -/
theorem dropSpans_of_ne {c : Char} (hc : c ≠ '<') (rest : List Char) :
    dropSpans after? (fuel + 1) (c :: rest) = c :: dropSpans after? fuel rest := by
  rw [dropSpans, if_neg hc]

/-- A span goes with its opening bracket. -/
theorem dropSpans_of_some {rest more : List Char} (h : after? rest = some more) :
    dropSpans after? (fuel + 1) ('<' :: rest) = dropSpans after? fuel more := by
  rw [dropSpans, if_pos rfl, h]

/-- An opening bracket without a span stays. -/
theorem dropSpans_of_none {rest : List Char} (h : after? rest = none) :
    dropSpans after? (fuel + 1) ('<' :: rest) = '<' :: dropSpans after? fuel rest := by
  rw [dropSpans, if_pos rfl, h]

/-- Text without an opening bracket stays in front of the rest. -/
theorem dropSpans_append_left {before : List Char} (hbefore : '<' ∉ before) (cs : List Char) :
    dropSpans after? (before.length + fuel) (before ++ cs) =
      before ++ dropSpans after? fuel cs := by
  induction before with
  | nil => rw [List.length_nil, Nat.zero_add, List.nil_append, List.nil_append]
  | cons c rest ih =>
    obtain ⟨hc, hrest⟩ := List.ne_and_not_mem_of_not_mem_cons hbefore
    have hlength : (c :: rest).length + fuel = rest.length + fuel + 1 := by
      rw [List.length_cons]
      omega
    rw [hlength, List.cons_append, dropSpans_of_ne _ _ (Ne.symm hc), ih hrest,
      List.cons_append]

end Step

/-! ## What a reader that marks spans does -/

namespace Marks

variable {after? : List Char → Option (List Char)} {IsSpan : List Char → Prop}

/-- What follows a span is no longer than what it was found in. -/
theorem length_le (h : Marks after? IsSpan) {cs rest : List Char} (hrest : after? cs = some rest) :
    rest.length ≤ cs.length := by
  obtain ⟨span, -, rfl⟩ := h.found_iff.mp hrest
  rw [List.length_append]
  omega

/-- **Surroundings do not count.**  Text without a closing bracket changes nothing of what is found
before it: no span ends in it, so none that was begun is completed, and none is prevented. -/
theorem append (h : Marks after? IsSpan) {behind : List Char} (hbehind : '>' ∉ behind)
    (cs : List Char) : after? (cs ++ behind) = (after? cs).map (· ++ behind) := by
  cases hcs : after? cs with
  | some rest =>
    obtain ⟨span, hspan, rfl⟩ := h.found_iff.mp hcs
    exact h.found_iff.mpr ⟨span, hspan, List.append_assoc span rest behind⟩
  | none =>
    have hnone : ∀ rest, after? (cs ++ behind) ≠ some rest := by
      intro rest hsome
      obtain ⟨span, hspan, heq⟩ := h.found_iff.mp hsome
      have hinside : ∀ more, cs ≠ span ++ more := by
        intro more hmore
        have hfound : after? cs = some more := h.found_iff.mpr ⟨span, hspan, hmore⟩
        rw [hcs] at hfound
        cases hfound
      rcases List.append_eq_append_iff.mp heq with ⟨excess, hexcess, hrest⟩ | ⟨more, hmore, -⟩
      · -- the span would have to end in the text behind
        have hne : excess ≠ [] := by
          rintro rfl
          exact hinside [] (by rw [hexcess, List.append_nil, List.append_nil])
        have hlast : excess.getLast? = some '>' := by
          rw [← List.getLast?_append_of_ne_nil cs hne, ← hexcess]
          exact h.ends hspan
        have hmem : '>' ∈ behind := by
          rw [hrest]
          exact List.mem_append_left rest (List.mem_of_getLast? hlast)
        exact hbehind hmem
      · exact hinside more hmore
    exact Option.eq_none_iff_forall_ne_some.mpr hnone

/-- Text without brackets stays behind what is left of the text in front of it. -/
theorem dropSpans_append_right (h : Marks after? IsSpan) {behind : List Char}
    (hopening : '<' ∉ behind) (hclosing : '>' ∉ behind) (extra : Nat) {fuel : Nat}
    {cs : List Char} (hfuel : cs.length ≤ fuel) :
    dropSpans after? (fuel + extra) (cs ++ behind) = dropSpans after? fuel cs ++ behind := by
  induction fuel generalizing cs with
  | zero =>
    obtain rfl : cs = [] := List.eq_nil_of_length_eq_zero (by omega)
    exact dropSpans_of_not_mem after? _ hopening
  | succ fuel ih =>
    cases cs with
    | nil =>
      rw [List.nil_append, dropSpans_of_not_mem after? _ hopening,
        dropSpans_of_not_mem after? _ List.not_mem_nil, List.nil_append]
    | cons c rest =>
      have hrest : rest.length ≤ fuel := by
        rw [List.length_cons] at hfuel
        omega
      rw [Nat.add_right_comm, List.cons_append]
      by_cases hc : c = '<'
      · subst hc
        have happend := h.append hclosing rest
        cases hfound : after? rest with
        | none =>
          rw [hfound, Option.map_none] at happend
          rw [dropSpans_of_none _ _ happend, dropSpans_of_none _ _ hfound, ih hrest,
            List.cons_append]
        | some more =>
          rw [hfound, Option.map_some] at happend
          have hmore : more.length ≤ fuel := (h.length_le hfound).trans hrest
          rw [dropSpans_of_some _ _ happend, dropSpans_of_some _ _ hfound, ih hmore]
      · rw [dropSpans_of_ne _ _ hc, dropSpans_of_ne _ _ hc, ih hrest, List.cons_append]

/-- More steps than there are characters change nothing. -/
theorem dropSpans_of_length_le (h : Marks after? IsSpan) {cs : List Char} {fuel : Nat}
    (hfuel : cs.length ≤ fuel) : dropSpans after? fuel cs = dropSpans after? cs.length cs := by
  obtain ⟨extra, rfl⟩ := Nat.exists_eq_add_of_le hfuel
  have := h.dropSpans_append_right List.not_mem_nil List.not_mem_nil extra (le_refl cs.length)
  rwa [List.append_nil, List.append_nil] at this

/-- **Text without brackets stays on either side.** -/
theorem dropSpans_between (h : Marks after? IsSpan) {before behind : List Char}
    (hbefore : '<' ∉ before) (hopening : '<' ∉ behind) (hclosing : '>' ∉ behind)
    (cs : List Char) :
    dropSpans after? (before ++ cs ++ behind).length (before ++ cs ++ behind) =
      before ++ dropSpans after? cs.length cs ++ behind := by
  have hlength : (before ++ cs ++ behind).length =
      before.length + (cs.length + behind.length) := by
    rw [List.length_append, List.length_append]
    omega
  rw [hlength, List.append_assoc, dropSpans_append_left _ _ hbefore,
    h.dropSpans_append_right hopening hclosing _ (le_refl cs.length), List.append_assoc]

/-- **A span goes.**  What follows it is left as if the span had never been there. -/
theorem dropSpans_span (h : Marks after? IsSpan) {before span : List Char}
    (hbefore : '<' ∉ before) (hspan : IsSpan span) (cs : List Char) :
    dropSpans after? (before ++ '<' :: (span ++ cs)).length (before ++ '<' :: (span ++ cs)) =
      before ++ dropSpans after? cs.length cs := by
  have hfound : after? (span ++ cs) = some cs := h.found_iff.mpr ⟨span, hspan, rfl⟩
  have hshort : cs.length ≤ (span ++ cs).length := h.length_le hfound
  rw [List.length_append, dropSpans_append_left _ _ hbefore, List.length_cons,
    dropSpans_of_some _ _ hfound, h.dropSpans_of_length_le hshort]

/-- Nothing is put in. -/
theorem sublist_dropSpans (h : Marks after? IsSpan) (fuel : Nat) (cs : List Char) :
    (dropSpans after? fuel cs).Sublist cs := by
  induction fuel generalizing cs with
  | zero =>
    rw [dropSpans]
  | succ fuel ih =>
    cases cs with
    | nil => rw [dropSpans_of_not_mem after? _ List.not_mem_nil]
    | cons c rest =>
      by_cases hc : c = '<'
      · subst hc
        cases hfound : after? rest with
        | none =>
          rw [dropSpans_of_none _ _ hfound]
          exact (ih rest).cons_cons '<'
        | some more =>
          obtain ⟨span, -, rfl⟩ := h.found_iff.mp hfound
          rw [dropSpans_of_some _ _ hfound]
          exact (ih more).trans ((List.sublist_append_right span more).cons '<')
      · rw [dropSpans_of_ne _ _ hc]
        exact (ih rest).cons_cons c

end Marks

end Intake.Text.Markup
