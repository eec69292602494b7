import Intake.Proofs.Fault
import Intake.Proofs.Form.Dependence
import Intake.Proofs.Value.Sameness

/-!
# What settling one field does

Settling looks at what a field reads and at its own answer, and writes nothing but its own
answer.  A field is **at rest** if settling it changes nothing.

* `Field.Settlement` lists what the other answers can make of a field, and
  `Field.settled?_eq_ok_iff` says that the list is complete;
* `Field.settle_get_of_ne` says that no other answer changes;
* `Field.atRest_congr` says that rest depends only on what the field reads and holds;
* `Field.atRest_of_settle` says that a field that does not read itself is at rest once it has
  been settled.
-/

namespace Intake

namespace Field

variable {host : Host} {a b : Answers} {d : Field}

/-- What a field holds while it is unset is the same as itself. -/
theorem sameAs_self_of_isUnset {v : Value} (hunset : d.isUnset v = true) :
    v.sameAs v = true := by
  rcases isUnset_cases hunset with hexact | ⟨negative, rfl⟩
  · exact hexact.sameAs_self
  · exact Value.sameAs_zero_iff.mpr ⟨negative, rfl⟩

/-- **What the other answers make of a field.**  A derived field counts its source, a hidden
one is empty, a visible one that is unset takes its fallback, and any other is left alone. -/
inductive Settlement (host : Host) (a : Answers) (d : Field) : Option Value → Prop where
  | counted {derivation : Derivation} (hderivation : d.derivation = some derivation) :
      Settlement host a d (some (.int (a.get derivation.source).itemCount))
  | hidden (hderivation : d.derivation = none) (hcond : d.condition.isSome = true)
      (hhidden : d.isShown? host a = .ok false) : Settlement host a d (some d.type.emptyValue)
  | filled {v : Value} (hderivation : d.derivation = none) (hcond : d.condition.isSome = true)
      (hshown : d.isShown? host a = .ok true)
      (hlacks : (d.hasFallback && d.isUnset (a.get d.name)) = true)
      (hclean : d.clean? host d.fallback = .ok v) : Settlement host a d (some v)
  | left (hderivation : d.derivation = none) (hshown : d.isShown? host a = .ok true)
      (hfull : d.condition.isSome = true →
        (d.hasFallback && d.isUnset (a.get d.name)) = false) : Settlement host a d none

/-- A field that is hidden has a condition. -/
theorem isSome_of_hidden (hhidden : d.isShown host a = false) : d.condition.isSome = true := by
  rw [isShown_eq] at hhidden
  cases hcond : d.condition with
  | none => simp [hcond] at hhidden
  | some c => rfl

/-- Settling makes of a field what the other answers make of it, and nothing else. -/
theorem settled?_eq_ok_iff {o : Option Value} :
    d.settled? host a = .ok o ↔ d.Settlement host a o := by
  constructor
  · intro h
    unfold settled? at h
    split at h
    · rename_i derivation hderivation
      cases h
      exact .counted hderivation
    rename_i hderivation
    split at h
    · rename_i hnone
      obtain hnone : d.condition = none := by simpa using hnone
      cases h
      exact .left hderivation (isShown?_of_none hnone) (by simp [hnone])
    rename_i hsome
    have hcond : d.condition.isSome = true := by simpa [Option.isSome_iff_ne_none] using hsome
    obtain ⟨shown, hshown, h⟩ := exists_of_bind_eq_ok h
    cases shown with
    | false =>
      cases h
      exact .hidden hderivation hcond hshown
    | true =>
    rw [if_neg (by simp)] at h
    split at h
    · rename_i hlacks
      obtain ⟨v, hclean, rfl⟩ := exists_of_map_eq_ok h
      exact .filled hderivation hcond hshown hlacks hclean
    · rename_i hfull
      cases h
      exact .left hderivation hshown fun _ => by simpa using hfull
  · rintro (⟨hderivation⟩ | ⟨hderivation, hcond, hhidden⟩ |
      ⟨hderivation, hcond, hshown, hlacks, hclean⟩ | ⟨hderivation, hshown, hfull⟩)
    · simp only [settled?, hderivation]
      rfl
    · have hnone : d.condition.isNone = false := by simpa using hcond
      simp only [settled?, hderivation, hnone, hhidden]
      rfl
    · have hnone : d.condition.isNone = false := by simpa using hcond
      simp only [settled?, hderivation, hnone, hshown, hlacks, hclean]
      rfl
    · cases hcond : d.condition with
      | none =>
        simp only [settled?, hderivation, hcond]
        rfl
      | some c =>
        have hkept := hfull (by simp [hcond])
        simp only [settled?, hderivation, hcond, hshown, hkept]
        rfl

/-- The other answers make a field empty that comes out as hidden and is not derived. -/
theorem Settlement.eq_of_hidden {o : Option Value} (h : d.Settlement host a o)
    (hderivation : d.derivation = none) (hhidden : d.isShown host a = false) :
    o = some d.type.emptyValue := by
  cases h with
  | counted hsome => cases hderivation.symm.trans hsome
  | hidden => rfl
  | filled _ _ hshown => cases hhidden.symm.trans (isShown_of_eq_ok hshown)
  | left _ hshown => cases hhidden.symm.trans (isShown_of_eq_ok hshown)

/-- What the other answers make of a local field depends on what it reads and holds alone. -/
theorem settled?_congr (hlocal : d.IsLocal host)
    (hreads : ∀ source ∈ d.reads, a.get source = b.get source)
    (hown : a.get d.name = b.get d.name) : d.settled? host a = d.settled? host b := by
  unfold settled?
  rw [isShown?_congr hlocal hreads, hown]
  cases hderivation : d.derivation with
  | none => rfl
  | some derivation =>
    have hsource : a.get derivation.source = b.get derivation.source :=
      hreads _ (by simp [reads, hderivation])
    simp only [hsource]

/-- A field of which the other answers make nothing stays as it is. -/
theorem settle_of_none (h : d.settled? host a = .ok none) : d.settle host a = .ok (a, false) := by
  unfold settle
  rw [h]
  rfl

/-- A field takes the value that the other answers make of it, unless it holds the same. -/
theorem settle_of_some {v : Value} (h : d.settled? host a = .ok (some v)) :
    d.settle host a =
      if v.sameAs (a.get d.name) then .ok (a, false) else .ok (a.set d.name v, true) := by
  unfold settle
  rw [h]
  rfl

/-- Settling succeeds only where it is known what the other answers make of the field. -/
theorem settled?_of_settle {r : Answers × Bool} (h : d.settle host a = .ok r) :
    ∃ o, d.settled? host a = .ok o := by
  cases hsettled : d.settled? host a with
  | ok o => exact ⟨o, rfl⟩
  | error fault =>
    unfold settle at h
    rw [hsettled] at h
    cases h

/-- Settling succeeds where it is known what the other answers make of the field. -/
theorem exists_settle_of_settled? {o : Option Value} (h : d.settled? host a = .ok o) :
    ∃ b changed, d.settle host a = .ok (b, changed) := by
  cases o with
  | none => exact ⟨a, false, settle_of_none h⟩
  | some v =>
    rw [settle_of_some h]
    split
    · exact ⟨a, false, rfl⟩
    · exact ⟨a.set d.name v, true, rfl⟩

/-- **What settling does.**  Either nothing, or the field gets a value that differs from what
it holds. -/
theorem settle_cases {changed : Bool} (h : d.settle host a = .ok (b, changed)) :
    (b = a ∧ changed = false ∧ ∃ o, d.settled? host a = .ok o ∧
      ∀ v ∈ o, v.sameAs (a.get d.name) = true) ∨
    (∃ v, d.settled? host a = .ok (some v) ∧ v.sameAs (a.get d.name) = false ∧
      b = a.set d.name v ∧ changed = true) := by
  obtain ⟨o, ho⟩ := settled?_of_settle h
  cases o with
  | none =>
    rw [settle_of_none ho] at h
    cases h
    exact .inl ⟨rfl, rfl, none, ho, by simp⟩
  | some v =>
    rw [settle_of_some ho] at h
    cases hsame : v.sameAs (a.get d.name) with
    | true =>
      simp only [hsame, if_true] at h
      cases h
      exact .inl ⟨rfl, rfl, some v, ho, by simpa using hsame⟩
    | false =>
      simp only [hsame, Bool.false_eq_true, if_false] at h
      cases h
      exact .inr ⟨v, ho, hsame, rfl, rfl⟩

/-- Settling a field leaves every other answer alone. -/
theorem settle_get_of_ne {changed : Bool} (h : d.settle host a = .ok (b, changed))
    {name : String} (hne : name ≠ d.name) : b.get name = a.get name := by
  rcases settle_cases h with ⟨rfl, -, -⟩ | ⟨v, -, -, rfl, -⟩
  · rfl
  · rw [Answers.get_set, if_neg (Ne.symm hne)]

/-- What a field holds once it has been settled: what the other answers make of it, unless that is
the same as what it held. -/
theorem get_of_settle {changed : Bool} (h : d.settle host a = .ok (b, changed)) :
    ∃ o, d.settled? host a = .ok o ∧
      b.get d.name = (o.filter fun v => !v.sameAs (a.get d.name)).getD (a.get d.name) := by
  rcases settle_cases h with ⟨rfl, -, o, ho, hsame⟩ | ⟨v, hv, hdiffers, rfl, -⟩
  · refine ⟨o, ho, ?_⟩
    cases o with
    | none => rfl
    | some v =>
      rw [Option.filter_some, hsame v rfl]
      rfl
  · refine ⟨some v, hv, ?_⟩
    rw [Answers.get_set, if_pos rfl, Option.filter_some, hdiffers]
    rfl

/-- A field is **at rest** if what the other answers make of it is what it holds. -/
def AtRest (host : Host) (answers : Answers) (d : Field) : Prop :=
  ∃ o, d.settled? host answers = .ok o ∧ ∀ v ∈ o, v.sameAs (answers.get d.name) = true

/-- Settling changes nothing exactly if the field is at rest. -/
theorem atRest_iff_settle : d.AtRest host a ↔ d.settle host a = .ok (a, false) := by
  constructor
  · rintro ⟨o, ho, hsame⟩
    cases o with
    | none => exact settle_of_none ho
    | some v => rw [settle_of_some ho, if_pos (hsame v rfl)]
  · intro h
    rcases settle_cases h with ⟨-, -, hrest⟩ | ⟨v, -, -, -, hchanged⟩
    · exact hrest
    · cases hchanged

/-- Rest depends on what a local field reads and holds alone. -/
theorem atRest_congr (hlocal : d.IsLocal host)
    (hreads : ∀ source ∈ d.reads, a.get source = b.get source)
    (hown : a.get d.name = b.get d.name) (hrest : d.AtRest host a) : d.AtRest host b := by
  obtain ⟨o, ho, hsame⟩ := hrest
  exact ⟨o, by rw [← settled?_congr hlocal hreads hown, ho], by rwa [← hown]⟩

/-- **A settled field is at rest.**  What is written is settled at once: a count and an empty
value are made again, and a fallback is either no longer unset or made again. -/
theorem atRest_of_settle (hlocal : d.IsLocal host) (hself : d.name ∉ d.reads) {changed : Bool}
    (h : d.settle host a = .ok (b, changed)) : d.AtRest host b := by
  have hreads : ∀ source ∈ d.reads, a.get source = b.get source := by
    intro source hread
    exact (settle_get_of_ne h (fun heq => hself (heq ▸ hread))).symm
  have hshown := isShown?_congr hlocal hreads
  rcases settle_cases h with ⟨rfl, -, hrest⟩ | ⟨v, hv, -, rfl, -⟩
  · exact hrest
  have hown : (a.set d.name v).get d.name = v := by rw [Answers.get_set, if_pos rfl]
  cases settled?_eq_ok_iff.mp hv with
  | @counted derivation hderivation =>
    have hsource := hreads derivation.source (by simp [reads, hderivation])
    refine ⟨_, settled?_eq_ok_iff.mpr (.counted hderivation), ?_⟩
    rw [hown, ← hsource]
    simpa using (Value.isExact_int _).sameAs_self
  | hidden hderivation hcond hhidden =>
    refine ⟨_, settled?_eq_ok_iff.mpr (.hidden hderivation hcond (hshown ▸ hhidden)), ?_⟩
    rw [hown]
    simpa using d.type.isExact_emptyValue.sameAs_self
  | filled hderivation hcond hvisible hlacks hclean =>
    obtain ⟨hfallback, -⟩ := Bool.and_eq_true_iff.mp hlacks
    cases hunset : d.isUnset v with
    | true =>
      have hstill : (d.hasFallback && d.isUnset ((a.set d.name v).get d.name)) = true := by
        rw [hown, hfallback, hunset]
        rfl
      refine ⟨_, settled?_eq_ok_iff.mpr
        (.filled hderivation hcond (hshown ▸ hvisible) hstill hclean), ?_⟩
      rw [hown]
      simpa using sameAs_self_of_isUnset hunset
    | false =>
      refine ⟨none, settled?_eq_ok_iff.mpr (.left hderivation (hshown ▸ hvisible) fun _ => ?_),
        by simp⟩
      rw [hown, hunset, Bool.and_false]

end Field

end Intake
