import Intake.Proofs.Form.Emptying
import Intake.Proofs.Form.Showing
import Intake.Proofs.Form.Typed
import Intake.Proofs.Value.LongInteger

/-!
# When sanitizing fails

What cannot be brought to the form of its field counts as empty, and a function that fails is passed
over; so sanitizing should always come to an end with answers.  Two things are in the way.  Most
sorts of field take an integer for the text that writes it, and an integer of more than 4300 digits
is not written: it can come in as a raw answer, as an item of a list, anywhere inside a password,
from a cleaner of the host, and as the fallback of a field that gets it while the answers are
settled.  And a fault of the host without wording is not passed over, be it of a cleaner or of a
condition.

* `FieldType.TooLong` says which values are too long for a sort of field, and
  `FieldType.clean?_failsIff` that no other value makes its cleaning fail;
* `Field.Balks` and `Field.clean?_failsAs` say the same of fields;
* `Field.Stalls` says when settling a field fails, and `settlePasses_failsAs` that passes fail
  exactly if a field stalls at a moment at which it is settled;
* `FieldType.eq_emptyValue_of_not_fits` says that what does not fit a sort of field is cleaned to
  its empty value;
* `sanitize_total_iff` is the conclusion.
-/

namespace Intake

/-! ## Cleaning -/

/-- Is the value itself a long integer? -/
def Value.IsLongInteger (v : Value) : Prop := ∃ n, v = .int n ∧ Value.IsLong n

/-- A long integer has one in it. -/
theorem Value.IsLongInteger.hasLongInteger {v : Value} (h : v.IsLongInteger) :
    v.HasLongInteger := by
  obtain ⟨n, rfl, hn⟩ := h
  exact .int hn

/-- A value is **too long** for a sort of field if a long integer has to be written to clean it. -/
def FieldType.TooLong (v : Value) : FieldType → Prop
  | .text | .textarea | .select | .email | .url => v.IsLongInteger
  | .multiSelect | .multiValue =>
    ∃ items, v.sequence? = some items ∧ ∃ item ∈ items, item.IsLongInteger
  | .password => v.HasLongInteger
  | .number | .checkbox | .date => False

/-- What is too long for some sort of field has a long integer in it. -/
theorem FieldType.TooLong.hasLongInteger {type : FieldType} {v : Value} (h : type.TooLong v) :
    v.HasLongInteger := by
  have hlist : (∃ items, v.sequence? = some items ∧ ∃ item ∈ items, item.IsLongInteger) →
      v.HasLongInteger := by
    rintro ⟨items, hitems, item, hitem, hlong⟩
    cases v with
    | list => cases hitems; exact .list hitem hlong.hasLongInteger
    | tuple => cases hitems; exact .tuple hitem hlong.hasLongInteger
    | _ => cases hitems
  cases type with
  | multiSelect => exact hlist h
  | multiValue => exact hlist h
  | password => exact h
  | number => exact h.elim
  | checkbox => exact h.elim
  | date => exact h.elim
  | _ => exact Value.IsLongInteger.hasLongInteger h

namespace Cleaning

/-- A text or number has its text unless it is a long integer. -/
theorem plainText?_failsIff (v : Value) : FailsIff (plainText? v) v.IsLongInteger := by
  cases v with
  | int n =>
    refine (Value.intText?_failsIff n).congr ⟨fun h => ⟨n, rfl, h⟩, ?_⟩
    rintro ⟨_, hn, h⟩
    cases hn
    exact h
  | _ => exact (FailsAs.ok _).congr (iff_of_false id fun ⟨_, hn, _⟩ => nomatch hn)

/-- A list is cleaned unless one of its items is a long integer. -/
theorem list?_failsIff (v : Value) : FailsIff (list? v)
    (∃ items, v.sequence? = some items ∧ ∃ item ∈ items, item.IsLongInteger) := by
  unfold list?
  cases hitems : v.sequence? with
  | none => exact (FailsAs.ok _).congr (by simp)
  | some items =>
    have htexts : FailsIff (items.mapM text?) (∃ item ∈ items, item.IsLongInteger) :=
      FailsAs.mapM fun item _ => (plainText?_failsIff item).map _
    exact (htexts.map _).congr (by simp)

/-- A password is cleaned unless a long integer lies in it. -/
theorem password?_failsIff (v : Value) : FailsIff (password? v) v.HasLongInteger := by
  have hwritten : FailsIff (v.text?.map Text.strip) v.HasLongInteger :=
    (Value.text?_failsIff v).map _
  cases v with
  | null =>
    refine (FailsAs.ok _).congr (iff_of_false id fun h => ?_)
    cases h
  | _ => exact hwritten

end Cleaning

/-- **Cleaning by a sort of field fails** exactly if the value is too long for it. -/
theorem FieldType.clean?_failsIff (type : FieldType) (v : Value) :
    FailsIff (type.clean? v) (type.TooLong v) := by
  cases type with
  | number => exact FailsAs.ok _
  | checkbox => exact FailsAs.ok _
  | date => exact FailsAs.ok _
  | multiSelect => exact (Cleaning.list?_failsIff v).map _
  | multiValue => exact (Cleaning.list?_failsIff v).map _
  | password => exact (Cleaning.password?_failsIff v).map _
  | _ => exact ((Cleaning.plainText?_failsIff v).map _).map _

/-! ## Fields that balk -/

/-- What can come up in sanitizing: too many digits, and what comes up in wording a fault. -/
def Host.Raises (host : Host) (f : Fault) : Prop := f = .tooManyDigits ∨ host.Worsens f

/-- A field **balks** at a value that is too long for its sort, or of which its own cleaner makes
one, or fails without wording its fault. -/
def Field.Balks (host : Host) (d : Field) (v : Value) : Prop :=
  d.type.TooLong v ∨ ∃ cleaned, d.type.clean? v = .ok cleaned ∧ ∃ f ∈ d.cleaner,
    (∃ own, f.clean? host cleaned = .ok own ∧ d.type.TooLong own) ∨
      ∃ fault, f.clean? host cleaned = .error fault ∧ ¬ fault.IsWorded

/-- **Cleaning by a field fails** exactly if the field balks. -/
theorem Field.clean?_failsAs (host : Host) (d : Field) (v : Value) :
    FailsAs host.Raises (d.clean? host v) (d.Balks host v) := by
  have hdigits : ∀ f : Fault, f = .tooManyDigits → host.Raises f := fun _ => .inl
  refine ((d.type.clean?_failsIff v).mono hdigits).bind (q := fun cleaned => ∃ f ∈ d.cleaner,
    (∃ own, f.clean? host cleaned = .ok own ∧ d.type.TooLong own) ∨
      ∃ fault, f.clean? host cleaned = .error fault ∧ ¬ fault.IsWorded) fun cleaned _ => ?_
  cases hd : d.cleaner with
  | none => exact (FailsAs.ok _).congr (by simp)
  | some f =>
    dsimp only
    cases hf : f.clean? host cleaned with
    | error fault =>
      dsimp only
      constructor
      · rintro ⟨f', hf', ⟨own, hown, -⟩ | ⟨fault', hfault, hunworded⟩⟩
        · cases hf'
          cases hf.symm.trans hown
        · cases hf'
          cases hf.symm.trans hfault
          obtain ⟨worse, hworse⟩ := Fault.not_isWorded_iff.mp hunworded
          refine ⟨worse, Fault.passOver_eq_error_iff.mpr hworse, .inr ?_⟩
          cases f with
          | host name => exact .clean hf hworse
          | cleaner c => cases hf
          | predicate =>
            cases hf
            exact absurd ⟨_, rfl⟩ hunworded
          | test =>
            cases hf
            exact absurd ⟨_, rfl⟩ hunworded
      · intro hnot
        have hworded : fault.IsWorded := by
          by_contra hunworded
          exact hnot ⟨f, rfl, .inr ⟨fault, hf, hunworded⟩⟩
        exact ⟨_, hworded.passOver _⟩
    | ok own => exact ((d.type.clean?_failsIff own).mono hdigits).congr (by simp [hf])

/-! ## Settling -/

/-- A field **stalls** at answers if it cannot be told whether it is visible, or if it should take
its fallback there and balks at it. -/
inductive Field.Stalls (host : Host) (d : Field) (a : Answers) : Prop where
  | untold {fault : Fault} (hderivation : d.derivation = none)
      (huntold : d.isShown? host a = .error fault)
  | balks (hderivation : d.derivation = none) (hcond : d.condition.isSome = true)
      (hshown : d.isShown? host a = .ok true)
      (hlacks : (d.hasFallback && d.isUnset (a.get d.name)) = true)
      (hbalks : d.Balks host d.fallback)

section Settling

variable {host : Host}

/-- What the other answers make of a field is known unless it stalls. -/
theorem Field.settled?_failsAs (d : Field) (a : Answers) :
    FailsAs host.Raises (d.settled? host a) (d.Stalls host a) := by
  constructor
  · rintro (⟨hderivation, huntold⟩ | ⟨hderivation, hcond, hshown, hlacks, hbalks⟩)
    · have hcond : d.condition.isNone = false := by
        cases hcond : d.condition with
        | none =>
          rw [isShown?_of_none hcond] at huntold
          cases huntold
        | some c => rfl
      refine ⟨_, ?_, .inr (Field.worsens_of_error huntold)⟩
      simp only [settled?, hderivation, hcond, huntold]
      rfl
    · obtain ⟨fault, hfault, hraises⟩ := (d.clean?_failsAs host d.fallback).fails hbalks
      have hnone : d.condition.isNone = false := by simpa using hcond
      refine ⟨fault, ?_, hraises⟩
      simp only [settled?, hderivation, hnone, hshown, hlacks, hfault]
      rfl
  · intro hnot
    suffices hsettled : ∃ o, d.Settlement host a o from
      hsettled.imp fun _ => settled?_eq_ok_iff.mpr
    cases hderivation : d.derivation with
    | some derivation => exact ⟨_, .counted hderivation⟩
    | none =>
      cases hshown : d.isShown? host a with
      | error fault => exact absurd (.untold hderivation hshown) hnot
      | ok shown =>
        cases shown with
        | false =>
          exact ⟨_, .hidden hderivation (isSome_of_hidden (isShown_of_eq_ok hshown)) hshown⟩
        | true =>
          by_cases hlacks : d.condition.isSome = true ∧
            (d.hasFallback && d.isUnset (a.get d.name)) = true
          · obtain ⟨v, hv⟩ := (d.clean?_failsAs host d.fallback).returns fun hbalks =>
              hnot (.balks hderivation hlacks.1 hshown hlacks.2 hbalks)
            exact ⟨_, .filled hderivation hlacks.1 hshown hlacks.2 hv⟩
          · exact ⟨_, .left hderivation hshown fun hcond => by simpa [hcond] using hlacks⟩

/-- Settling a field fails exactly if it stalls. -/
theorem Field.settle_failsAs (d : Field) (a : Answers) :
    FailsAs host.Raises (d.settle host a) (d.Stalls host a) := by
  refine ((d.settled?_failsAs a).bind (q := fun _ => False) fun o _ => ?_).congr (by simp)
  cases o with
  | none => exact FailsAs.ok _
  | some v => exact ((FailsAs.ok _).ite (FailsAs.ok _)).congr (by simp)

/-- **A pass fails** exactly if a field stalls at a moment at which it is settled. -/
theorem settlePass_failsAs (todo : List Field) (a : Answers) :
    FailsAs host.Raises (settlePass host a todo)
      (∃ d moment, IsSettledAt host d moment todo a ∧ d.Stalls host moment) := by
  induction todo generalizing a with
  | nil => exact (FailsAs.ok _).congr (iff_of_false id fun ⟨_, _, h, _⟩ => nomatch h)
  | cons e rest ih =>
    refine ((e.settle_failsAs a).bind fun first _ =>
      (ih first.1).bind (q := fun _ => False) fun _ _ => FailsAs.ok _).congr ?_
    constructor
    · rintro (h | ⟨⟨between, changed⟩, hstep, ⟨d, moment, hmoment, h⟩ | ⟨_, _, h⟩⟩)
      · exact ⟨e, a, .now, h⟩
      · exact ⟨d, moment, .later hstep hmoment, h⟩
      · exact h.elim
    · rintro ⟨d, moment, hmoment, h⟩
      cases hmoment with
      | now => exact .inl h
      | later hstep hmoment => exact .inr ⟨_, hstep, .inl ⟨d, moment, hmoment, h⟩⟩

/-- **Passes fail** exactly if a field stalls at a moment at which it is settled in their course. -/
theorem settlePasses_failsAs (fields : List Field) (passes : Nat) (a : Answers) :
    FailsAs host.Raises (settlePasses host fields passes a)
      (∃ d moment, IsSettledDuring host fields d moment passes a ∧ d.Stalls host moment) := by
  induction passes generalizing a with
  | zero => exact (FailsAs.ok _).congr (iff_of_false id fun ⟨_, _, h, _⟩ => nomatch h)
  | succ passes ih =>
    rw [settlePasses]
    refine ((settlePass_failsAs fields a).bind fun result _ =>
      (ih result.1).ite (FailsAs.ok _)).congr ?_
    constructor
    · rintro (⟨d, moment, hmoment, h⟩ | ⟨⟨between, changed⟩, hpass, h⟩)
      · exact ⟨d, moment, .first hmoment, h⟩
      · cases changed with
        | false => exact h.elim
        | true =>
          obtain ⟨d, moment, hmoment, h⟩ := h
          exact ⟨d, moment, .later hpass hmoment, h⟩
    · rintro ⟨d, moment, hmoment, h⟩
      cases hmoment with
      | first hmoment => exact .inl ⟨d, moment, hmoment, h⟩
      | later hpass hmoment => exact .inr ⟨_, hpass, d, moment, hmoment, h⟩

/-- Answers are cleaned unless a field balks at one of them. -/
theorem cleanAll_failsAs (fields : List Field) (raw : Answers) :
    FailsAs host.Raises (cleanAll host raw fields)
      (∃ d ∈ fields, d.Balks host (raw.get d.name)) := by
  have hentries : FailsAs host.Raises
      (fields.mapM fun d => do return (d.name, ← d.clean? host (raw.get d.name)))
      (∃ d ∈ fields, d.Balks host (raw.get d.name)) :=
    FailsAs.mapM fun d _ => ((Field.clean?_failsAs host d (raw.get d.name)).bind
      (q := fun _ => False) fun _ _ => FailsAs.ok _).congr (by simp)
  exact (hentries.bind (q := fun _ => False) fun _ _ => FailsAs.ok _).congr (by simp)

/-- **Sanitizing fails** exactly if a field balks at its raw answer, or else a field stalls while
the cleaned answers are settled. -/
theorem sanitize_failsAs (fields : List Field) (raw : Answers) :
    FailsAs host.Raises (sanitize host fields raw)
      ((∃ d ∈ fields, d.Balks host (raw.get d.name)) ∨
        ∃ cleaned, cleanAll host raw fields = .ok cleaned ∧ ∃ d moment,
          IsSettledDuring host fields d moment (fields.length + 1) cleaned ∧
            d.Stalls host moment) :=
  (cleanAll_failsAs fields raw).bind fun cleaned _ =>
    settlePasses_failsAs fields (fields.length + 1) cleaned

end Settling

/-! ## Without long integers -/

/-- A host is **brief** if its cleaners give no long integers. -/
def Host.IsBrief (host : Host) : Prop :=
  ∀ name v w, host.clean name v = .ok w → ¬ w.HasLongInteger

/-- A cleaner of the engine makes no long integer of what is of a sort that minds it. -/
theorem Cleaner.not_tooLong_apply (c : Cleaner) {type : FieldType} {w : Value}
    (h : type.Holds w) : ¬ type.TooLong (c.apply w) := by
  have htext : ∀ {P : String → Prop}, (∃ s, w = .text s ∧ P s) → ¬ (c.apply w).HasLongInteger := by
    rintro P ⟨s, rfl, -⟩ hlong
    cases hlong
  have hlist : ∀ {P : String → Prop},
      (∃ texts : List String, w = .list (texts.map .text) ∧ ∀ s ∈ texts, P s) →
      ¬ (c.apply w).HasLongInteger := by
    rintro P ⟨texts, rfl, -⟩ hlong
    cases hlong with
    | list hitem hlong =>
      rw [List.map_map] at hitem
      obtain ⟨s, -, rfl⟩ := List.mem_map.mp hitem
      cases hlong
  intro hlong
  cases type with
  | number => exact hlong
  | checkbox => exact hlong
  | date => exact hlong
  | multiSelect => exact hlist h (FieldType.TooLong.hasLongInteger hlong)
  | multiValue => exact hlist h (FieldType.TooLong.hasLongInteger hlong)
  | _ => exact htext h (FieldType.TooLong.hasLongInteger hlong)

/-- No field balks at what has no long integer in it, as long as the host is brief and words its
faults. -/
theorem Field.not_balks {host : Host} (hbrief : host.IsBrief) (hworded : host.IsWorded) (d : Field)
    {v : Value} (hv : ¬ v.HasLongInteger) : ¬ d.Balks host v := by
  rintro (hlong | ⟨cleaned, hcleaned, f, -, ⟨own, hown, hlong⟩ | ⟨fault, hfault, hunworded⟩⟩)
  · exact hv hlong.hasLongInteger
  on_goal 2 =>
    cases f with
    | host name => exact hunworded (hworded.clean hfault)
    | cleaner c => cases hfault
    | predicate =>
      cases hfault
      exact hunworded ⟨_, rfl⟩
    | test =>
      cases hfault
      exact hunworded ⟨_, rfl⟩
  cases f with
  | cleaner c =>
    cases hown
    exact c.not_tooLong_apply (FieldType.holds_of_clean? hcleaned) hlong
  | host name => exact hbrief name cleaned own hown hlong.hasLongInteger
  | predicate => cases hown
  | test => cases hown

/-! ## What cannot be cleaned -/

/-- A value **gives a number** if it is one in the range of floating-point numbers, or a truth
value, or the text of such a number. -/
inductive Value.GivesNumber : Value → Prop where
  | bool {b : Bool} : GivesNumber (.bool b)
  | int {n : Int} (h : (Binary64.ofInt? n).isSome = true) : GivesNumber (.int n)
  | float {x : Binary64} (h : x.isFinite = true) : GivesNumber (.float x)
  | integer {s : String} {n : Int} (hs : Numeral.readInt s = .ok n)
      (h : (Binary64.ofInt? n).isSome = true) : GivesNumber (.text s)
  | decimal {s : String} {x : Binary64} (hs : Numeral.readFloat? s = some x)
      (h : x.isFinite = true) : GivesNumber (.text s)

/-- A value **gives a text** if it is a text or a number. -/
inductive Value.GivesText : Value → Prop where
  | text {s : String} : GivesText (.text s)
  | int {n : Int} : GivesText (.int n)
  | float {x : Binary64} : GivesText (.float x)

/-- A value **fits** a sort of field if it can be brought to the form of that sort. -/
def FieldType.Fits (v : Value) : FieldType → Prop
  | .text | .textarea | .select | .email => v.GivesText
  | .url => ∃ s u, Cleaning.plainText? v = .ok s ∧ WebAddress.normal? (Text.strip s) = some u
  | .number => v.GivesNumber
  | .multiSelect | .multiValue => ∃ items, v.sequence? = some items
  | .checkbox => True
  | .date | .password => v ≠ .null

/-- A value that gives no number is cleaned to zero. -/
theorem Cleaning.number_of_not_givesNumber {v : Value} (h : ¬ v.GivesNumber) :
    number v = .int 0 := by
  cases v with
  | bool b => exact absurd .bool h
  | int n => rw [number, integer, if_neg fun hn => h (.int hn)]
  | float x => rw [number, decimal, if_neg fun hx => h (.float hx)]
  | text s =>
    rw [number, numberText]
    cases hs : Numeral.readInt s with
    | ok n => exact congrArg Value.int (if_neg fun hn => h (.integer hs hn))
    | error fault =>
      dsimp only
      cases hx : Numeral.readFloat? s with
      | none => rfl
      | some x => exact if_neg fun hfinite => h (.decimal hx hfinite)
  | _ => rfl

/-- A value that gives no text is taken for an empty one. -/
theorem Cleaning.plainText?_of_not_givesText {v : Value} (h : ¬ v.GivesText) :
    plainText? v = plainText? (.text "") := by
  cases v with
  | text s => exact absurd .text h
  | int n => exact absurd .int h
  | float x => exact absurd .float h
  | _ => rfl

/-- **What does not fit counts as empty**: if cleaning gives anything, it is the empty value. -/
theorem FieldType.eq_emptyValue_of_not_fits {type : FieldType} {v w : Value}
    (hfits : ¬ type.Fits v) (h : type.clean? v = .ok w) : w = type.emptyValue := by
  have hempty := type.clean?_emptyValue.1
  have htext : ¬ v.GivesText → Cleaning.text? v = Cleaning.text? (.text "") := fun hv => by
    rw [Cleaning.text?, Cleaning.plainText?_of_not_givesText hv]
    rfl
  have hemail : ¬ v.GivesText → Cleaning.email? v = Cleaning.email? (.text "") := fun hv => by
    rw [Cleaning.email?, Cleaning.plainText?_of_not_givesText hv]
    rfl
  have hlist : (¬ ∃ items, v.sequence? = some items) → Cleaning.list? v = .ok [] := fun hv => by
    have hitems : v.sequence? = none :=
      Option.eq_none_iff_forall_not_mem.mpr fun items hitems => hv ⟨items, hitems⟩
    rw [Cleaning.list?, hitems]
  cases type with
  | text | textarea | select =>
    rw [clean?, htext hfits] at h
    exact Except.ok.inj (h.symm.trans hempty)
  | email =>
    rw [clean?, hemail hfits] at h
    exact Except.ok.inj (h.symm.trans hempty)
  | url =>
    obtain ⟨s, hs, rfl⟩ := exists_of_map_eq_ok h
    rcases Cleaning.url?_cases hs with rfl | ⟨plain, hplain, hnormal⟩
    · rfl
    · exact absurd ⟨plain, s, hplain, hnormal⟩ hfits
  | number =>
    cases h
    exact Cleaning.number_of_not_givesNumber hfits
  | multiSelect | multiValue =>
    rw [clean?, hlist hfits] at h
    cases h
    rfl
  | checkbox => exact absurd trivial hfits
  | date | password =>
    obtain rfl : v = .null := not_not.mp hfits
    cases h
    rfl

section Sanitized

variable {host : Host} {fields : List Field} {d : Field}

/-- What does not fit a field is cleaned to its empty value, also by a cleaner of the engine. -/
theorem Field.eq_emptyValue_of_not_fits (hcleaner : ∀ f ∈ d.cleaner, ∃ c, f = .cleaner c)
    {v w : Value} (hfits : ¬ d.type.Fits v) (h : d.clean? host v = .ok w) :
    w = d.type.emptyValue := by
  have hempty : d.clean? host d.type.emptyValue = _ := Field.clean?_emptyValue hcleaner
  have hsame : d.type.clean? v = d.type.clean? d.type.emptyValue := by
    obtain ⟨cleaned, hcleaned, -⟩ := exists_of_bind_eq_ok h
    rw [hcleaned, FieldType.eq_emptyValue_of_not_fits hfits hcleaned, d.type.clean?_emptyValue.1]
  rw [Field.clean?, hsame] at h
  exact Except.ok.inj (h.symm.trans hempty)

/-- What a visible field makes of its empty value is this value, or its cleaned fallback. -/
theorem Field.filled?_emptyValue {w : Value} (h : d.filled? host d.type.emptyValue = .ok w) :
    w = d.type.emptyValue ∨ d.clean? host d.fallback = .ok w := by
  unfold filled? at h
  split at h
  · obtain ⟨f, hf, rfl⟩ := exists_of_map_eq_ok h
    split
    · exact .inl rfl
    · exact .inr hf
  · cases h
    exact .inl rfl

/-- **What becomes of an answer that does not fit** a field that is not derived: the empty value,
or, if the field has a condition, its fallback. -/
theorem Field.get_of_not_fits (hnames : (fieldNames fields).Nodup) (hd : d ∈ fields)
    (hderivation : d.derivation = none) (hcleaner : ∀ f ∈ d.cleaner, ∃ c, f = .cleaner c)
    {raw s : Answers} (hfits : ¬ d.type.Fits (raw.get d.name))
    (h : sanitize host fields raw = .ok s) :
    s.get d.name = d.type.emptyValue ∨
      d.condition.isSome = true ∧ d.clean? host d.fallback = .ok (s.get d.name) := by
  cases hcond : d.condition with
  | none =>
    have hclean := Field.clean?_get_of_sanitize hnames hd hcond hderivation h
    exact .inl (Field.eq_emptyValue_of_not_fits hcleaner hfits hclean)
  | some condition =>
    have hsome : d.condition.isSome = true := by rw [hcond]; rfl
    obtain ⟨cleaned, hcleaned, hreconcile⟩ := reconcile_of_sanitize h
    have hempty : cleaned.get d.name = d.type.emptyValue :=
      Field.eq_emptyValue_of_not_fits hcleaner hfits
        ((meets_clean?_of_cleanAll hnames hcleaned).each d hd)
    have hsame : ∀ e ∈ fields, e.name = d.name → e = d :=
      fun e he hname => List.inj_on_of_nodup_map hnames he hd hname
    have hfollows : d.FollowsFrom host d.type.emptyValue (s.get d.name) := by
      cases Field.comesOf_of_settlePasses hsome hderivation hsame (.inl hempty) hreconcile with
      | emptied _ _ _ hend => exact hend
      | kept _ hend => exact hend
    rcases hfollows with hend | hend
    · exact .inl hend
    · exact (Field.filled?_emptyValue hend).imp id fun hfallback => ⟨rfl, hfallback⟩

end Sanitized

/-- **When sanitizing fails, and what it gives otherwise.**

* It fails exactly if a field balks at its raw answer, or else a field stalls while the cleaned
  answers are settled; and then because of too many digits, or with what comes up in wording a fault
  of the host.
* So it gives answers if no long integer lies in a raw answer or a fallback, and the host is brief
  and words its faults.
* The answers it gives are those of the fields.  An answer that does not fit its field has become
  the empty value, or the fallback of a field with a condition, unless the field is derived or has
  a cleaner of the host's. -/
theorem sanitize_total_iff (host : Host) (fields : List Field) (raw : Answers) :
    ((∃ fault, sanitize host fields raw = .error fault) ↔
      (∃ d ∈ fields, d.Balks host (raw.get d.name)) ∨
        ∃ cleaned, cleanAll host raw fields = .ok cleaned ∧ ∃ d moment,
          IsSettledDuring host fields d moment (fields.length + 1) cleaned ∧
            d.Stalls host moment) ∧
    (∀ fault, sanitize host fields raw = .error fault →
      fault = .tooManyDigits ∨ host.Worsens fault) ∧
    (host.IsBrief → host.IsWorded →
      (∀ d ∈ fields, ¬ (raw.get d.name).HasLongInteger ∧ ¬ d.fallback.HasLongInteger) →
      ∃ s, sanitize host fields raw = .ok s) ∧
    ((fieldNames fields).Nodup → ∀ s, sanitize host fields raw = .ok s →
      s.keys = fieldNames fields ∧
      ∀ d ∈ fields, d.derivation = none → (∀ f ∈ d.cleaner, ∃ c, f = .cleaner c) →
        ¬ d.type.Fits (raw.get d.name) →
        s.get d.name = d.type.emptyValue ∨
          d.condition.isSome = true ∧ d.clean? host d.fallback = .ok (s.get d.name)) := by
  have hfails : FailsAs host.Raises (sanitize host fields raw) _ := sanitize_failsAs fields raw
  refine ⟨hfails.exists_iff, fun fault => hfails.expected_of_error, ?_, ?_⟩
  · intro hbrief hworded hshort
    refine hfails.returns ?_
    rintro (⟨d, hd, hbalks⟩ | ⟨cleaned, -, d, moment, hmoment, hstalls⟩)
    · exact d.not_balks hbrief hworded (hshort d hd).1 hbalks
    · cases hstalls with
      | untold _ huntold => exact hworded.not_worsens (Field.worsens_of_error huntold)
      | balks _ _ _ _ hbalks =>
        exact d.not_balks hbrief hworded (hshort d hmoment.mem).2 hbalks
  · intro hnames s hs
    exact ⟨keys_of_sanitize hnames hs, fun d hd hderivation hcleaner hfits =>
      Field.get_of_not_fits hnames hd hderivation hcleaner hfits hs⟩

/-- The shortest integer that is too long is no answer to a field for a text. -/
theorem sanitize_shortest_long :
    (fieldNames [{ name := "t", type := .text }]).Nodup ∧
    sanitize Host.none [{ name := "t", type := .text }]
      (Answers.ofEntries [("t", .int (10 ^ Value.digitLimit))]) = .error .tooManyDigits := by
  have hfails : FailsAs Host.none.Raises (sanitize Host.none [{ name := "t", type := .text }]
      (Answers.ofEntries [("t", .int (10 ^ Value.digitLimit))])) _ := sanitize_failsAs _ _
  obtain ⟨fault, hfault, hraises⟩ :=
    hfails.fails (.inl ⟨_, List.mem_cons_self, .inl ⟨_, rfl, Value.isLong_pow⟩⟩)
  refine ⟨by decide, ?_⟩
  rcases hraises with rfl | hworsens
  · exact hfault
  · exact absurd hworsens Host.isWorded_none.not_worsens

end Intake
