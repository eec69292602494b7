import Intake.Form.Condition
import Intake.Proofs.Fault
import Intake.Proofs.Value.LongInteger

/-!
# Asking whether a field is visible

Whether a field is visible can mostly be told: a function that fails counts as a condition that does
not hold.  It cannot be told only where a function of the host fails without wording the fault.

* `Field.isShown_of_eq_ok` and its like say that what is told is what the questions without a
  question mark come out as;
* `chosen?_eq_ok_iff` says what is chosen where every question can be answered;
* `Field.exists_isShown?` says that it can be told of every field whose functions word their faults,
  and `Clause.isWorded_of_predicate` that those of the engine do;
* `Host.Worsens` are the faults that come up in wording those of the host, and
  `Field.worsens_of_error` says that they alone are in the way.
-/

namespace Intake

/-- What a question that is answered came out as. -/
theorem saidYes_of_eq_ok {x : Except Fault Bool} {b : Bool} (h : x = .ok b) : saidYes x = b := by
  rw [h]
  rfl

/-- A question that came out as yes is answered. -/
theorem eq_ok_of_saidYes {x : Except Fault Bool} (h : saidYes x = true) : x = .ok true := by
  cases x with
  | error f => cases h
  | ok b => exact congrArg Except.ok h

section Chosen

variable {α : Type} {ask : α → Except Fault Bool}

/-- **What is chosen**: if every question is answered, the items for which the answer is yes. -/
theorem chosen?_eq_ok_iff {items chosen : List α} :
    chosen? ask items = .ok chosen ↔
      (∀ a ∈ items, ∃ b, ask a = .ok b) ∧ chosen = items.filter fun a => saidYes (ask a) := by
  induction items generalizing chosen with
  | nil => simp [chosen?, eq_comm]
  | cons a rest ih =>
    rw [chosen?, List.forall_mem_cons]
    constructor
    · intro h
      obtain ⟨here, hhere, h⟩ := exists_of_bind_eq_ok h
      obtain ⟨others, hothers, h⟩ := exists_of_bind_eq_ok h
      obtain ⟨hrest, rfl⟩ := ih.mp hothers
      refine ⟨⟨⟨here, hhere⟩, hrest⟩, ?_⟩
      rw [List.filter_cons, saidYes_of_eq_ok hhere]
      exact (Except.ok.inj h).symm
    · rintro ⟨⟨⟨here, hhere⟩, hrest⟩, rfl⟩
      rw [hhere, ih.mpr ⟨hrest, rfl⟩, List.filter_cons, saidYes_of_eq_ok hhere]
      rfl

end Chosen

variable {host : Host} {answers : Answers}

/-- A clause with a predicate holds as the predicate does. -/
theorem Clause.holds?_of_predicate {field : String} {p : Predicate Value} {identity : Identity}
    {b : Bool} (h : p.holds? (answers.get field) = .ok b) :
    (⟨field, .callable (.predicate p identity)⟩ : Clause).holds? host answers = .ok b := by
  simp only [holds?, Callable.holds?, Callable.decide?, h]
  rfl

namespace Field

variable {d : Field}

/-- A field comes out as visible if its condition holds. -/
theorem isShown_eq (d : Field) :
    d.isShown host answers = d.condition.all (Condition.holds host answers) := by
  unfold isShown isShown?
  cases d.condition with
  | none => rfl
  | some c => rfl

/-- A field comes out as required if its condition holds and requires it. -/
theorem isRequiredNow_eq (d : Field) : d.isRequiredNow host answers =
    d.condition.any fun c => c.required && c.holds host answers := by
  unfold isRequiredNow isRequiredNow?
  cases d.condition with
  | none => rfl
  | some c =>
    show saidYes (if c.required then c.holds? host answers else .ok false) = _
    rw [Option.any_some]
    cases c.required with
    | false => rfl
    | true => rfl

/-- Whether a field is visible comes out as it is told. -/
theorem isShown_of_eq_ok {b : Bool} (h : d.isShown? host answers = .ok b) :
    d.isShown host answers = b :=
  saidYes_of_eq_ok h

/-- Of a field that comes out as visible it is told. -/
theorem isShown?_of_isShown (h : d.isShown host answers = true) :
    d.isShown? host answers = .ok true :=
  eq_ok_of_saidYes h

/-- A field without a condition is visible. -/
theorem isShown?_of_none (h : d.condition = none) : d.isShown? host answers = .ok true := by
  rw [isShown?, h]

/-- Where it is told whether a field is visible, it is told whether it is required. -/
theorem isRequiredNow?_of_isShown? {b : Bool} (h : d.isShown? host answers = .ok b) :
    d.isRequiredNow? host answers = .ok (d.isRequiredNow host answers) := by
  unfold isRequiredNow isRequiredNow?
  cases hcond : d.condition with
  | none => rfl
  | some c =>
    rw [isShown?, hcond] at h
    dsimp only at h ⊢
    rw [h]
    cases c.required <;> rfl

end Field

/-! ## Functions that word their faults -/

/-- Only what cannot be looked up makes it impossible to tell whether an item is in a value. -/
theorem Value.isWorded_of_includes? {item v : Value} {f : Fault}
    (h : item.includes? v = .error f) : f.IsWorded := by
  cases v with
  | set items =>
    simp only [includes?] at h
    split at h
    · cases h
    · split at h <;> cases h
      exact ⟨_, rfl⟩
  | text whole => cases item <;> cases h
  | _ => cases h

/-- What a predicate fails with is worded. -/
theorem Predicate.isWorded_of_error {p : Predicate Value} {v : Value} {f : Fault}
    (h : p.holds? v = .error f) : f.IsWorded := by
  cases p with
  | contains item => exact Value.isWorded_of_includes? h
  | _ => cases h

/-- Only a text has blanks around it to be taken off. -/
theorem Value.isWorded_of_stripped? {v : Value} {f : Fault} (h : v.stripped? = .error f) :
    f.IsWorded := by
  unfold stripped? at h
  split at h <;> cases h
  exact ⟨_, rfl⟩

/-- Only what cannot be looked up makes it impossible to look an answer up. -/
theorem Answers.isWorded_of_at? {name : Value} {f : Fault} (h : answers.at? name = .error f) :
    f.IsWorded := by
  unfold at? at h
  split at h
  · cases h
  · split at h <;> cases h
    exact ⟨_, rfl⟩

/-- Only what holds items can be gone through. -/
theorem Value.isWorded_of_items? {v : Value} {f : Fault} (h : v.items? = .error f) :
    f.IsWorded := by
  unfold items? at h
  split at h <;> cases h
  exact ⟨_, rfl⟩

/-- Items are compared by their texts, and an item has none only if it has too many digits. -/
theorem RuleTest.isWorded_of_itemKeys {items : List Value} {f : Fault}
    (h : items.mapM itemKey? = .error f) : f.IsWorded := by
  obtain ⟨-, item, -, -, -, hitem⟩ := mapM_eq_error_iff.mp h
  have hlong := (Value.text?_failsIff item).expected_of_error (map_eq_error_iff.mp hitem)
  exact hlong ▸ ⟨_, rfl⟩

/-- What a test fails with is worded. -/
theorem RuleTest.isWorded_of_error {t : RuleTest Value} {v : Value} {f : Fault}
    (h : t.passes? v answers = .error f) : f.IsWorded := by
  cases t with
  | ticketLink | ticketKey | emailDomain suffix =>
    exact Value.isWorded_of_stripped? (map_eq_error_iff.mp h)
  | notMoreThan field | atLeastItemsOf field =>
    obtain hat | ⟨_, -, hdone⟩ := bind_eq_error_iff.mp h
    · exact Answers.isWorded_of_at? hat
    · cases hdone
  | uniqueItems =>
    obtain hitems | ⟨items, -, hrest⟩ := bind_eq_error_iff.mp h
    · exact Value.isWorded_of_items? hitems
    · obtain hkeys | ⟨_, -, hdone⟩ := bind_eq_error_iff.mp hrest
      · exact isWorded_of_itemKeys hkeys
      · cases hdone

/-- The functions of the host **word their faults**. -/
structure Host.IsWorded (host : Host) : Prop where
  decide : ∀ {name value answers f}, host.decide name value answers = .error f → f.IsWorded
  vague : ∀ {name value answers f}, host.vague name value answers = some f → f.IsWorded
  clean : ∀ {name value f}, host.clean name value = .error f → f.IsWorded

theorem Host.isWorded_none : Host.none.IsWorded where
  decide := by rintro _ _ _ _ ⟨⟩; exact ⟨_, rfl⟩
  vague := nofun
  clean := by rintro _ _ _ ⟨⟩; exact ⟨_, rfl⟩

/-- The functions of a clause **word their faults**. -/
def Clause.IsWorded (host : Host) (c : Clause) : Prop :=
  ∀ f, c.expected = .callable f → ∀ value answers fault,
    f.holds? host value answers = .error fault → fault.IsWorded

/-- The functions of a field's condition word their faults. -/
def Field.IsWorded (host : Host) (d : Field) : Prop :=
  ∀ c ∈ d.condition, c.clause.IsWorded host ∧ ∀ second ∈ c.second, second.IsWorded host

/-- A clause with a literal has no faults to word. -/
theorem Clause.isWorded_of_literal {c : Clause} (hliteral : ∀ f, c.expected ≠ .callable f) :
    c.IsWorded host :=
  fun f hf => absurd hf (hliteral f)

/-- The predicates of the engine word their faults. -/
theorem Clause.isWorded_of_predicate {c : Clause} {p : Predicate Value} {identity : Identity}
    (hpredicate : c.expected = .callable (.predicate p identity)) : c.IsWorded host := by
  intro f hf value answers fault hfault
  rw [hpredicate] at hf
  cases hf
  cases hholds : p.holds? value with
  | ok b =>
    rw [Callable.holds?, Callable.decide?, hholds] at hfault
    cases hfault
  | error g =>
    rw [Callable.holds?, Callable.decide?, hholds] at hfault
    cases hfault
    exact Predicate.isWorded_of_error hholds

/-- Of a clause that words its faults it can be told whether it holds. -/
theorem Clause.exists_holds? {c : Clause} (h : c.IsWorded host) (answers : Answers) :
    ∃ b, c.holds? host answers = .ok b := by
  unfold holds?
  split
  · rename_i f hf
    split
    · rename_i b _
      exact ⟨b, rfl⟩
    · rename_i fault hfault
      exact ⟨false, (h f hf _ _ _ hfault).passOver false⟩
  · exact ⟨_, rfl⟩

/-- **It can be told of a field whether it is visible** if its functions word their faults. -/
theorem Field.exists_isShown? {d : Field} (h : d.IsWorded host) (answers : Answers) :
    ∃ b, d.isShown? host answers = .ok b := by
  unfold isShown?
  cases hcond : d.condition with
  | none => exact ⟨true, rfl⟩
  | some c =>
    obtain ⟨hfirst, hsecond⟩ := h c hcond
    obtain ⟨b, hb⟩ := Clause.exists_holds? hfirst answers
    dsimp only
    rw [Condition.holds?, hb]
    cases b with
    | false => exact ⟨false, rfl⟩
    | true =>
      show ∃ b, Clause.allHold? host answers c.second = .ok b
      cases hsec : c.second with
      | none => exact ⟨true, rfl⟩
      | some second => exact Clause.exists_holds? (hsecond second hsec) answers

/-- What is told of such a field is what comes out. -/
theorem Field.isShown?_eq_ok {d : Field} (h : d.IsWorded host) (answers : Answers) :
    d.isShown? host answers = .ok (d.isShown host answers) := by
  obtain ⟨b, hb⟩ := exists_isShown? h answers
  rw [hb, isShown_of_eq_ok hb]

/-! ## Faults without wording -/

/-- A fault **comes of a worse one** if it comes up in wording a fault of the host. -/
inductive Host.Worsens (host : Host) (worse : Fault) : Prop where
  | decide {name : String} {v : Value} {a : Answers} {f : Fault}
      (h : host.decide name v a = .error f) (hworse : f.wording? = .error worse)
  | vague {name : String} {v : Value} {a : Answers} {f : Fault}
      (h : host.vague name v a = some f) (hworse : f.wording? = .error worse)
  | clean {name : String} {v : Value} {f : Fault}
      (h : host.clean name v = .error f) (hworse : f.wording? = .error worse)

section Untold

variable {host : Host} {a : Answers} {worse : Fault}

/-- If the host words its faults, nothing comes up in wording them. -/
theorem Host.IsWorded.not_worsens (h : host.IsWorded) : ¬ host.Worsens worse := by
  have hnot : ∀ {f : Fault}, f.IsWorded → f.wording? ≠ .error worse := by
    rintro f ⟨text, htext⟩ hworse
    cases htext.symm.trans hworse
  rintro (⟨hf, hworse⟩ | ⟨hf, hworse⟩ | ⟨hf, hworse⟩)
  · exact hnot (h.decide hf) hworse
  · exact hnot (h.vague hf) hworse
  · exact hnot (h.clean hf) hworse

/-- Only a fault of the host has no wording where a function is asked. -/
theorem Callable.worsens_of_decide? {f : Callable Value} {v : Value} {fault : Fault}
    (h : f.decide? host v a = .error fault) (hworse : fault.wording? = .error worse) :
    host.Worsens worse := by
  have hnot : ¬ fault.IsWorded := Fault.not_isWorded_iff.mpr ⟨worse, hworse⟩
  cases f with
  | host name => exact .decide h hworse
  | predicate p identity => exact absurd (Predicate.isWorded_of_error h) hnot
  | test t identity => exact absurd (RuleTest.isWorded_of_error h) hnot
  | cleaner c =>
    cases h
    exact absurd ⟨_, rfl⟩ hnot

/-- Only what the host gave can be neither yes nor no. -/
theorem Callable.vague_of_read? {f : Callable Value} {v : Value} {given : Bool} {fault : Fault}
    (h : f.read? host v a given = .error fault) : ∃ name, host.vague name v a = some fault := by
  cases f with
  | host name =>
    rw [read?] at h
    cases hvague : host.vague name v a with
    | some g =>
      rw [hvague] at h
      cases h
      exact ⟨name, hvague⟩
    | none =>
      rw [hvague] at h
      cases h
  | _ => cases h

/-- Only a fault of the host has no wording where a function is asked and its answer is read. -/
theorem Callable.worsens_of_holds? {f : Callable Value} {v : Value} {fault : Fault}
    (h : f.holds? host v a = .error fault) (hworse : fault.wording? = .error worse) :
    host.Worsens worse := by
  cases hdecide : f.decide? host v a with
  | error g =>
    rw [holds?, hdecide] at h
    cases h
    exact worsens_of_decide? hdecide hworse
  | ok given =>
    rw [holds?, hdecide] at h
    obtain ⟨name, hvague⟩ := vague_of_read? h
    exact .vague hvague hworse

/-- It cannot be told whether a clause holds only if a fault of the host has no wording. -/
theorem Clause.worsens_of_error {c : Clause} (h : c.holds? host a = .error worse) :
    host.Worsens worse := by
  unfold holds? at h
  split at h
  · split at h
    · cases h
    · rename_i fault hfault
      exact Callable.worsens_of_holds? hfault (Fault.passOver_eq_error_iff.mp h)
  · cases h

/-- **It cannot be told whether a field is visible** only if a fault of the host has no wording. -/
theorem Field.worsens_of_error {d : Field} (h : d.isShown? host a = .error worse) :
    host.Worsens worse := by
  unfold isShown? at h
  split at h
  · cases h
  rename_i c _
  cases hfirst : c.clause.holds? host a with
  | error fault =>
    rw [Condition.holds?, hfirst] at h
    cases h
    exact Clause.worsens_of_error hfirst
  | ok b =>
    rw [Condition.holds?, hfirst] at h
    cases b with
    | false => cases h
    | true =>
      change Clause.allHold? host a c.second = _ at h
      cases hsecond : c.second with
      | none =>
        rw [hsecond] at h
        cases h
      | some second =>
        rw [hsecond] at h
        exact Clause.worsens_of_error h

end Untold

end Intake
