import Intake.Definition.Names
import Intake.Proofs.Value.LongInteger

/-!
# Names that stand for something

Loading either gives a result or refuses the data, and whatever else it ends with escapes.  Two
things are looked up by name while fields are resolved: predicates and makers of rules.  What stands
in the place of a name need not be a text, and may be nothing that can be looked up, or written into
a refusal.  And a maker of rules takes its parameter and message as they are written.

* `Escapes` says that loading ends neither with a result nor with a refusal;
* `Value.IsNoName` says what cannot be a name, and `Value.IsNoName.escapes` that it is an escape;
* `NamesPredicate` says which predicate a record names, and `namedPredicate?_spec` that it is found;
* `NamesRule` says which maker of rules a record names, and with what parameter;
* `RuleMaker.build?_madeUnless` says that the rule is made unless `RuleMaker.Trips` holds, and
  `RuleMaker.makeWithMessage?_cases` that entries which the maker does not take are refused.
-/

namespace Intake

/-! ## Loading -/

section Loading

variable {α β : Type} {x : Load α}

/-- Loading **escapes** if it ends neither with a result nor with a refusal. -/
def Escapes (x : Load α) : Prop := ∃ e, x = .error e ∧ ∀ d issues, e ≠ .refused d issues

/-- A result is no escape. -/
theorem not_escapes_ok (a : α) : ¬ Escapes (.ok a : Load α) := by
  rintro ⟨_, h, -⟩
  cases h

/-- A refusal is no escape. -/
theorem not_escapes_refused (d : DefinitionError) (issues : List Issue) :
    ¬ Escapes (.error (.refused d issues) : Load α) := by
  rintro ⟨_, h, hnot⟩
  cases h
  exact hnot d issues rfl

/-- A fault is an escape. -/
theorem escapes_fault (f : Fault) : Escapes (.error (.fault f) : Load α) := ⟨_, rfl, nofun⟩

/-- Everything but a refusal is an escape. -/
theorem exists_refused_of_not_escapes {e : LoadError} (h : ¬ Escapes (.error e : Load α)) :
    ∃ d issues, e = .refused d issues := by
  by_contra hnot
  exact h ⟨e, rfl, fun d issues he => hnot ⟨d, issues, he⟩⟩

/-- Two steps escape if the first one does, or the second one with the result of the first. -/
theorem escapes_bind {f : α → Load β} :
    Escapes (x >>= f) ↔ Escapes x ∨ ∃ a, x = .ok a ∧ Escapes (f a) := by
  cases x with
  | error e =>
    constructor
    · rintro ⟨e', he, hnot⟩
      cases he
      exact .inl ⟨e, rfl, hnot⟩
    · rintro (⟨e', he, hnot⟩ | ⟨_, h, -⟩)
      · cases he
        exact ⟨e, rfl, hnot⟩
      · cases h
  | ok a =>
    constructor
    · exact fun h => .inr ⟨a, rfl, h⟩
    · rintro (h | ⟨b, hb, h⟩)
      · exact absurd h (not_escapes_ok a)
      · cases hb
        exact h

end Loading

/-! ## Names -/

/-- A value **cannot be a name** if it is not looked up, or not written out. -/
def Value.IsNoName (v : Value) : Prop := (∃ kind, v.unhashable? = some kind) ∨ v.HasLongInteger

/-- Texts can be names. -/
theorem Value.not_isNoName_text (s : String) : ¬ (Value.text s).IsNoName := by
  rintro (⟨kind, h⟩ | h) <;> cases h

/-- What can be a name passes the guard, and is written out. -/
theorem Value.exists_of_not_isNoName {v : Value} (h : ¬ v.IsNoName) :
    guardName v = .ok () ∧ ∃ shown, v.text? = .ok shown := by
  obtain ⟨hguard, hshort⟩ := not_or.mp h
  refine ⟨?_, (Value.text?_failsIff v).returns hshort⟩
  rw [guardName, Option.eq_none_iff_forall_not_mem.mpr fun kind hkind => hguard ⟨kind, hkind⟩]

/-- What cannot be a name makes loading escape where a name is needed. -/
theorem Value.IsNoName.escapes {α : Type} {v : Value} (h : v.IsNoName) (f : String → Load α) :
    Escapes (guardName v >>= fun _ => orFault v.text? >>= f) := by
  rw [escapes_bind]
  by_cases hguard : ∃ kind, v.unhashable? = some kind
  · obtain ⟨kind, hkind⟩ := hguard
    refine .inl ?_
    rw [guardName, hkind]
    exact escapes_fault _
  · have hlong := h.resolve_left hguard
    refine .inr ⟨(), ?_, ?_⟩
    · rw [guardName, Option.eq_none_iff_forall_not_mem.mpr fun kind hkind => hguard ⟨kind, hkind⟩]
    · rw [escapes_bind, (Value.text?_failsIff v).eq_error hlong]
      exact .inl (escapes_fault _)

/-- A record **names a predicate**: it has the name of one, and its argument if it takes one. -/
inductive NamesPredicate (named : List (Value × Value)) : Predicate Value → Prop where
  | equals {arg : Value}
      (hname : Value.lookupEntry (.text "predicate") named = some (.text "equals"))
      (harg : Value.lookupEntry (.text "arg") named = some arg) :
      NamesPredicate named (.equals arg)
  | contains {arg : Value}
      (hname : Value.lookupEntry (.text "predicate") named = some (.text "contains"))
      (harg : Value.lookupEntry (.text "arg") named = some arg) :
      NamesPredicate named (.contains arg)
  | isTruthy (hname : Value.lookupEntry (.text "predicate") named = some (.text "is_truthy")) :
      NamesPredicate named .isTruthy
  | notEmpty (hname : Value.lookupEntry (.text "predicate") named = some (.text "not_empty")) :
      NamesPredicate named .notEmpty

/-- A predicate is **long** if a long integer lies in its argument. -/
def Predicate.IsLong : Predicate Value → Prop
  | .equals arg | .contains arg => arg.HasLongInteger
  | .isTruthy | .notEmpty => False

/-- The name of a predicate is written unless the predicate is long. -/
theorem Predicate.name?_failsIff (p : Predicate Value) :
    FailsIff (Value.predicateName? p) p.IsLong := by
  cases p with
  | equals arg => rw [Value.predicateName?]; exact (Value.shown?_failsIff arg).map _
  | contains arg => rw [Value.predicateName?]; exact (Value.shown?_failsIff arg).map _
  | isTruthy => exact FailsAs.ok _
  | notEmpty => exact FailsAs.ok _

/-- What a record names is a matter of the name in it. -/
theorem namesPredicate_iff {named : List (Value × Value)} {p : Predicate Value} {name : Value}
    (hname : Value.lookupEntry (.text "predicate") named = some name) :
    NamesPredicate named p ↔
      (name = .text "equals" ∧ ∃ arg, Value.lookupEntry (.text "arg") named = some arg ∧
        p = .equals arg) ∨
      (name = .text "contains" ∧ ∃ arg, Value.lookupEntry (.text "arg") named = some arg ∧
        p = .contains arg) ∨
      (name = .text "is_truthy" ∧ p = .isTruthy) ∨ (name = .text "not_empty" ∧ p = .notEmpty) := by
  constructor
  · intro h
    cases h with
    | equals hname' harg => exact .inl ⟨Option.some.inj (hname.symm.trans hname'), _, harg, rfl⟩
    | contains hname' harg =>
      exact .inr (.inl ⟨Option.some.inj (hname.symm.trans hname'), _, harg, rfl⟩)
    | isTruthy hname' => exact .inr (.inr (.inl ⟨Option.some.inj (hname.symm.trans hname'), rfl⟩))
    | notEmpty hname' => exact .inr (.inr (.inr ⟨Option.some.inj (hname.symm.trans hname'), rfl⟩))
  · rintro (⟨rfl, arg, harg, rfl⟩ | ⟨rfl, arg, harg, rfl⟩ | ⟨rfl, rfl⟩ | ⟨rfl, rfl⟩)
    · exact .equals hname harg
    · exact .contains hname harg
    · exact .isTruthy hname
    · exact .notEmpty hname

/-- **Looking up a predicate.**  What is found is the predicate that the record names, and it
escapes exactly by what cannot be a name. -/
theorem namedPredicate?_spec (place : String) {named : List (Value × Value)} {name : Value}
    (hname : Value.lookupEntry (.text "predicate") named = some name) :
    (∀ p, namedPredicate? place named name = .ok p ↔ NamesPredicate named p) ∧
      (Escapes (namedPredicate? place named name) ↔ name.IsNoName) := by
  simp only [namesPredicate_iff hname]
  by_cases hno : name.IsNoName
  · have hescapes : Escapes (namedPredicate? place named name) := hno.escapes _
    refine ⟨fun p => iff_of_false ?_ ?_, iff_of_true hescapes hno⟩
    · obtain ⟨e, he, -⟩ := hescapes
      rw [he]
      exact nofun
    · rintro (⟨rfl, -⟩ | ⟨rfl, -⟩ | ⟨rfl, -⟩ | ⟨rfl, -⟩) <;> exact Value.not_isNoName_text _ hno
  · obtain ⟨hguard, shown, hshown⟩ := Value.exists_of_not_isNoName hno
    unfold namedPredicate?
    rw [hguard, hshown]
    simp only [orFault, Except.mapError, bind, Except.bind]
    split
    · cases Value.lookupEntry (.text "arg") named with
      | none => exact ⟨fun p => by simp [refuse], iff_of_false (not_escapes_refused _ _) hno⟩
      | some arg => exact ⟨fun p => by simp [eq_comm], iff_of_false (not_escapes_ok _) hno⟩
    · cases Value.lookupEntry (.text "arg") named with
      | none => exact ⟨fun p => by simp [refuse], iff_of_false (not_escapes_refused _ _) hno⟩
      | some arg => exact ⟨fun p => by simp [eq_comm], iff_of_false (not_escapes_ok _) hno⟩
    · exact ⟨fun p => by simp [pure, Except.pure, eq_comm],
        iff_of_false (not_escapes_ok _) hno⟩
    · exact ⟨fun p => by simp [pure, Except.pure, eq_comm],
        iff_of_false (not_escapes_ok _) hno⟩
    · exact ⟨fun p => by simp_all [refuse], iff_of_false (not_escapes_refused _ _) hno⟩

/-! ## Rules -/

/-- The parameters written beside the name of a rule, if they make a record; there are none if
nothing is written. -/
def ruleParameters? (named : List (Value × Value)) : Option (List (Value × Value)) :=
  let params := (Value.lookupEntry (.text "params") named).getD .null
  match if params.truthy then params else .dict [] with
  | .dict entries => some entries
  | _ => none

/-- Parameters make a record if something is written, or nothing counts. -/
theorem ruleParameters?_eq_some_iff {named entries : List (Value × Value)} :
    ruleParameters? named = some entries ↔
      (if ((Value.lookupEntry (.text "params") named).getD .null).truthy then
        (Value.lookupEntry (.text "params") named).getD .null else .dict []) = .dict entries := by
  simp only [ruleParameters?]
  split
  · rename_i h
    simp [h]
  · rename_i hnot
    exact iff_of_false nofun (hnot entries)

/-- The message written beside the name of a rule. -/
def ruleMessage (named : List (Value × Value)) : Value :=
  (Value.lookupEntry (.text "message") named).getD .null

/-- A maker of rules **takes** entries, and among them the parameter that it needs. -/
structure RuleMaker.Takes (maker : RuleMaker) (entries : List (Value × Value))
    (parameter : Value) : Prop where
  unworded : Value.lookupEntry (.text "message") entries = none
  expected : maker.wrongName? entries = none
  needed : maker.needed? entries = .ok parameter

/-- A record **names a rule**: it has the name of a maker, and entries that the maker takes. -/
structure NamesRule (named : List (Value × Value)) (maker : RuleMaker) (parameter : Value) :
    Prop where
  name : ∃ s, Value.lookupEntry (.text "rule") named = some (.text s) ∧
    RuleMaker.ofName? s = some maker
  takes : ∃ entries, ruleParameters? named = some entries ∧ maker.Takes entries parameter

/-- A maker of rules **trips** over a message that is no text, a domain that is no text, and a name
of a field that cannot be written into the message. -/
def RuleMaker.Trips (maker : RuleMaker) (parameter given : Value) : Prop :=
  (given.truthy = true ∧ ∀ s, given ≠ .text s) ∨
  match maker with
  | .emailDomain => ∀ s, parameter ≠ .text s
  | .notMoreThan | .atLeastItemsOf => given.truthy = false ∧ parameter.HasLongInteger
  | .ticketLink | .ticketKey | .uniqueItems => False

namespace RuleMaker

variable {α β : Type}

/-- Something is **made** unless a condition holds, and then there is a fault or a bad message. -/
inductive MadeUnless : Except RuleError α → Prop → Prop where
  | made {a : α} {p : Prop} (h : ¬ p) : MadeUnless (.ok a) p
  | badMessage {p : Prop} (h : p) : MadeUnless (.error .badMessage) p
  | fault {f : Fault} {p : Prop} (h : p) : MadeUnless (.error (.fault f)) p

theorem MadeUnless.congr {x : Except RuleError α} {p q : Prop} (h : MadeUnless x p)
    (hpq : p ↔ q) : MadeUnless x q := by
  cases h with
  | made h => exact .made (mt hpq.mpr h)
  | badMessage h => exact .badMessage (hpq.mp h)
  | fault h => exact .fault (hpq.mp h)

/-- What is made can be put into something else. -/
theorem MadeUnless.map {x : Except RuleError α} {p : Prop} (h : MadeUnless x p) (f : α → β) :
    MadeUnless (x >>= fun a => pure (f a)) p := by
  cases h with
  | made h => exact .made h
  | badMessage h => exact .badMessage h
  | fault h => exact .fault h

/-- A message is given as a text, or else another one is written. -/
theorem messageOr_madeUnless (given : Value) {other : Except Fault String} {p : Prop}
    (hother : FailsIff other p) : MadeUnless (messageOr given other)
      ((given.truthy = true ∧ ∀ s, given ≠ .text s) ∨ given.truthy = false ∧ p) := by
  unfold messageOr
  cases htruthy : given.truthy with
  | false =>
    rw [if_neg (by simp)]
    by_cases hp : p
    · rw [hother.eq_error hp]
      exact .fault (.inr ⟨rfl, hp⟩)
    · obtain ⟨message, hmessage⟩ := hother.returns hp
      rw [hmessage]
      exact .made (by simp [hp])
  | true =>
    rw [if_pos rfl]
    cases given with
    | text s => exact .made (by simp)
    | _ => exact .badMessage (.inl ⟨rfl, nofun⟩)

/-- A domain has to be a text. -/
theorem domainSuffix?_of_ne_text {v : Value} (h : ∀ s, v ≠ .text s) :
    ∃ f, domainSuffix? v = .error f := by
  cases v with
  | text s => exact absurd rfl (h s)
  | _ => exact ⟨_, rfl⟩

/-- **A rule is made** of a parameter and a message unless its maker trips over them. -/
theorem build?_madeUnless (maker : RuleMaker) (parameter given : Value) :
    MadeUnless (maker.build? parameter given) (maker.Trips parameter given) := by
  have hplain : ∀ other : String, MadeUnless (messageOr given (.ok other))
      ((given.truthy = true ∧ ∀ s, given ≠ .text s) ∨ False) := fun other =>
    (messageOr_madeUnless given (FailsAs.ok other)).congr (by simp)
  have hnamed : ∀ start : String, MadeUnless (messageOr given (parameter.text?.map (start ++ ·)))
      ((given.truthy = true ∧ ∀ s, given ≠ .text s) ∨
        given.truthy = false ∧ parameter.HasLongInteger) := fun start =>
    messageOr_madeUnless given ((Value.text?_failsIff parameter).map _)
  cases maker with
  | ticketLink => exact (hplain _).map _
  | ticketKey => exact (hplain _).map _
  | uniqueItems => exact (hplain _).map _
  | notMoreThan => exact (hnamed _).map _
  | atLeastItemsOf => exact (hnamed _).map _
  | emailDomain =>
    by_cases htext : ∀ s, parameter ≠ .text s
    · obtain ⟨f, hf⟩ := domainSuffix?_of_ne_text htext
      rw [build?, hf]
      exact .fault (.inr htext)
    · obtain ⟨s, rfl⟩ := not_forall_not.mp htext
      exact ((hplain _).map _).congr (or_congr_right (by simp))

/-- A message beside the entries is no parameter. -/
theorem needed?_message (maker : RuleMaker) (entries : List (Value × Value)) (given : Value) :
    maker.needed? ((.text "message", given) :: entries) = maker.needed? entries := by
  have hskip : ∀ p, p ≠ "message" → Value.lookupEntry (.text p)
      ((.text "message", given) :: entries) = Value.lookupEntry (.text p) entries := by
    intro p hp
    simp [Value.lookupEntry, Value.eqv, Ne.symm hp]
  cases maker <;> simp [needed?, parameter?, hskip]

/-- What is needed is there, or it is missing. -/
theorem needed?_cases (maker : RuleMaker) (entries : List (Value × Value)) :
    (∃ parameter, maker.needed? entries = .ok parameter) ∨
      ∃ problem, maker.needed? entries = .error (.badParameters problem) := by
  unfold needed?
  split
  · exact .inl ⟨_, rfl⟩
  split
  · exact .inl ⟨_, rfl⟩
  · exact .inr ⟨_, rfl⟩

/-- **Entries that a maker does not take** are refused; of those that it takes it makes a rule. -/
theorem makeWithMessage?_cases (maker : RuleMaker) (entries : List (Value × Value))
    (given : Value) :
    (∃ parameter, maker.Takes entries parameter ∧
      maker.makeWithMessage? entries given = maker.build? parameter given) ∨
    ((∀ parameter, ¬ maker.Takes entries parameter) ∧
      ∃ problem, maker.makeWithMessage? entries given = .error (.badParameters problem)) := by
  unfold makeWithMessage?
  cases hworded : Value.lookupEntry (.text "message") entries with
  | some message =>
    refine .inr ⟨fun _ h => ?_, _, rfl⟩
    cases hworded.symm.trans h.unworded
  | none =>
    rw [if_neg (by simp), make?, wrongName?, if_pos (.inl rfl)]
    cases hwrong : maker.wrongName? entries with
    | some problem =>
      refine .inr ⟨fun _ h => ?_, problem, rfl⟩
      cases hwrong.symm.trans h.expected
    | none =>
      dsimp only
      rw [needed?_message]
      have hgiven : (Value.lookupEntry (.text "message")
          ((.text "message", given) :: entries)).getD .null = given := by
        simp [Value.lookupEntry, Value.eqv]
      rw [hgiven]
      rcases maker.needed?_cases entries with ⟨parameter, hneeded⟩ | ⟨problem, hneeded⟩
      · rw [hneeded]
        exact .inl ⟨parameter, ⟨hworded, hwrong, hneeded⟩, rfl⟩
      · rw [hneeded]
        refine .inr ⟨fun _ h => ?_, problem, rfl⟩
        cases hneeded.symm.trans h.needed

end RuleMaker

end Intake
