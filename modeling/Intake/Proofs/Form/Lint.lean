import Intake.Form.Misfit

/-!
# What a clean lint says

A list of fields without a mistake has distinct names, conditions on other fields of the list,
fallbacks only under a condition, and derivations only of numbers from lists.
-/

namespace Intake

variable {fields : List Field} {d : Field}

/-- No name is found to occur again exactly if all names are new and distinct. -/
theorem lintNames_eq_nil_iff (before : List String) :
    lintNames before fields = [] ↔
      (fieldNames fields).Nodup ∧ ∀ name ∈ fieldNames fields, name ∉ before := by
  induction fields generalizing before with
  | nil => simp [lintNames, fieldNames]
  | cons d rest ih =>
    have hhead : (if before.contains d.name then [LintProblem.repeatedName d.name] else []) = [] ↔
        d.name ∉ before := by
      cases h : before.contains d.name <;> simp_all
    rw [lintNames, List.append_eq_nil_iff, hhead, ih]
    simp only [fieldNames, List.map_cons, List.nodup_cons, List.mem_cons, not_or,
      forall_eq_or_imp]
    constructor
    · rintro ⟨hnew, hnodup, hothers⟩
      exact ⟨⟨fun hmem => (hothers d.name hmem).1 rfl, hnodup⟩, hnew,
        fun name hname => (hothers name hname).2⟩
    · rintro ⟨⟨hunique, hnodup⟩, hnew, hothers⟩
      refine ⟨hnew, hnodup, fun name hname => ⟨?_, hothers name hname⟩⟩
      rintro rfl
      exact hunique hname

/-- The lint is clean exactly if names are distinct and every field is without a mistake. -/
theorem lint_eq_nil_iff :
    lint fields = [] ↔ (fieldNames fields).Nodup ∧
      ∀ d ∈ fields, d.lintCondition fields = [] ∧ d.lintDerivation fields = [] := by
  unfold lint
  rw [List.append_eq_nil_iff, lintNames_eq_nil_iff, List.flatMap_eq_nil_iff]
  simp [List.append_eq_nil_iff]

/-- What a strict lint accepts has no mistake. -/
theorem lint_eq_nil_of_checkFields {problems : List LintProblem}
    (h : checkFields true fields = .ok problems) : lint fields = [] := by
  unfold checkFields at h
  cases hlint : lint fields with
  | nil => rfl
  | cons problem rest => simp [hlint] at h

/-- In a list without a mistake a derived field holds a number. -/
theorem type_eq_number_of_lint (hlint : lint fields = []) (hd : d ∈ fields)
    {derivation : Derivation} (hderivation : d.derivation = some derivation) :
    d.type = .number := by
  have hclean := ((lint_eq_nil_iff.mp hlint).2 d hd).2
  unfold Field.lintDerivation at hclean
  rw [hderivation] at hclean
  cases Decidable.em (d.type = .number) with
  | inl htype => exact htype
  | inr htype => simp [htype] at hclean

end Intake
