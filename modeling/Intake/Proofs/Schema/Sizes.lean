import Intake.Proofs.Definition.Escapes
import Intake.Proofs.Text.Blank
import Intake.Schema.Rule

/-!
# Sizes that a field admits

Reading a field refuses a lower bound above the upper bound of the same sort, length or items.  A
text goes by the bounds on its length alone, so some length always fits.  A list goes by the bounds
on items and, where one of them is missing, by the bound on the length in its place; so it may come
by a lower and an upper bound of different sorts, and these were never compared.

* `Reading.exists_seq_iff` and its like say of what a value is read that is read from parts;
* `sizesInOrder_of_readField` says what reading has checked;
* `Field.admitsSize_iff` says that the rules of a field admit the sizes between two bounds;
* `exists_admittedSize_iff` is the conclusion: a size fits unless bounds of two sorts cross.
-/

namespace Intake

namespace Reading

/-! ## What is read from parts -/

section

variable {α β : Type} {P : β → Prop}

/-- A value is read from two parts exactly if each part gives its own. -/
theorem both_eq_good {f : Reading (α → β)} {x : Unit → Reading α} {b : β} :
    both f x = good b ↔ ∃ g a, f = good g ∧ x () = good a ∧ g a = b := by
  constructor
  · intro h
    unfold both at h
    split at h
    · cases h
    · split at h
      · cases h
      · rename_i g _ a ha
        cases h
        exact ⟨g, a, rfl, ha, rfl⟩
      · cases h
    · split at h
      · cases h
      · cases h
      · cases h
  · intro h
    obtain ⟨g, a, rfl, ha, rfl⟩ := h
    simp only [both, good, ha]
    rfl

/-- What is said of a value read from two parts can be said of the parts. -/
theorem exists_seq_iff {f : Reading (α → β)} {x : Reading α} :
    (∃ b, f <*> x = good b ∧ P b) ↔ ∃ a, x = good a ∧ ∃ g, f = good g ∧ P (g a) := by
  constructor
  · intro h
    obtain ⟨b, hb, hP⟩ := h
    obtain ⟨g, a, hg, ha, rfl⟩ := both_eq_good.mp hb
    exact ⟨a, ha, g, hg, hP⟩
  · intro h
    obtain ⟨a, ha, g, hg, hP⟩ := h
    exact ⟨g a, both_eq_good.mpr ⟨g, a, hg, ha, rfl⟩, hP⟩

/-- What is said of a changed value can be said of the value. -/
theorem exists_map_iff {f : α → β} {r : Reading α} :
    (∃ b, f <$> r = good b ∧ P b) ↔ ∃ a, r = good a ∧ P (f a) := by
  show (∃ b, good f <*> r = good b ∧ P b) ↔ _
  rw [exists_seq_iff]
  refine exists_congr fun a => and_congr_right fun _ => ?_
  constructor
  · intro h
    obtain ⟨g, hg, hP⟩ := h
    cases hg
    exact hP
  · intro hP
    exact ⟨f, rfl, hP⟩

/-- A further reading gives what it gives for the value that was read. -/
theorem andThen_eq_good {r : Reading α} {f : α → Reading β} {b : β} :
    r.andThen f = good b ↔ ∃ a, r = good a ∧ f a = good b := by
  constructor
  · intro h
    unfold andThen at h
    split at h
    · cases h
    · exact ⟨_, rfl, h⟩
    · cases h
  · intro h
    obtain ⟨a, rfl, hf⟩ := h
    exact hf

/-- Seen from further out a reading gives the same. -/
theorem under_eq_good {step : Step} {r : Reading α} {a : α} :
    r.under step = good a ↔ r = good a := by
  rcases r with fault | issues | a'
  · exact Iff.rfl
  · exact iff_of_false nofun nofun
  · exact Iff.rfl

end

end Reading

open Reading

section Parts

variable {α : Type} {record : List (Value × Value)}

/-- A part that may be missing is read from what is there, or it is what stands for it. -/
theorem readPartOr_eq_good {spellings : List String} {other a : α} {read : Value → Reading α}
    (h : readPartOr record spellings other read = good a) : a = other ∨ ∃ v, read v = good a := by
  unfold readPartOr at h
  split at h
  · exact .inr ⟨_, under_eq_good.mp h⟩
  · cases h
    exact .inl rfl

/-- What may be nothing is read from something unless it is nothing. -/
theorem readOption_eq_good {read : Value → Reading α} {v : Value} {o : Option α}
    (h : readOption read v = good o) : ∀ a ∈ o, ∃ w, read w = good a := by
  intro a ha
  unfold readOption at h
  split at h
  · cases h
    cases ha
  · obtain ⟨b, hb, rfl⟩ := exists_map_iff.mp ⟨o, h, rfl⟩
    cases ha
    exact ⟨_, hb⟩

/-- Only a record is read as a record. -/
theorem readRecord_eq_good {name : String} {read : List (Value × Value) → Reading α} {v : Value}
    {a : α} (h : readRecord name read v = good a) : ∃ r, v = .dict r ∧ read r = good a := by
  cases v with
  | dict r => exact ⟨r, rfl, h⟩
  | _ => cases h

end Parts

/-! ## Bounds in order -/

/-- There are not both bounds, or the lower one does not exceed the upper one. -/
def BoundsInOrder (low high : Option Int) : Prop := ∀ lo ∈ low, ∀ hi ∈ high, lo ≤ hi

/-- No size is below zero that stands as a bound. -/
def IsSize (bound : Option Int) : Prop := ∀ n ∈ bound, 0 ≤ n

/-- Bounds on sizes are sizes, and those of one sort are in order. -/
structure Constraints.SizesInOrder (c : Constraints) : Prop where
  maxLength : IsSize c.maxLength
  maxItems : IsSize c.maxItems
  lengths : BoundsInOrder c.minLength c.maxLength
  items : BoundsInOrder c.minItems c.maxItems

/-- Bounds that nothing is said against are in order. -/
theorem boundsInOrder_of_wrongOrder? {lowName highName : String} {low high : Option Int}
    (h : wrongOrder? lowName highName (low.map .int) (high.map .int) = none) :
    BoundsInOrder low high := by
  intro lo hlo hi hhi
  cases hlo
  cases hhi
  by_contra hcross
  have hexceeds : (Bound.int lo).exceeds (.int hi) = true := by
    simp only [Bound.exceeds, decide_eq_true_eq]
    omega
  simp only [wrongOrder?, Option.map_some, hexceeds, if_true] at h
  split at h
  all_goals cases h

/-- A bound on sizes is read as a size. -/
theorem isSize_of_readPartOr {record : List (Value × Value)} {spellings : List String}
    {bound : Option Int}
    (h : readPartOr record spellings none (readOption (readIntegerFrom 0)) = good bound) :
    IsSize bound := by
  intro n hn
  rcases readPartOr_eq_good h with rfl | ⟨v, hv⟩
  · cases hn
  · obtain ⟨w, hw⟩ := readOption_eq_good hv n hn
    obtain ⟨m, -, hm⟩ := andThen_eq_good.mp hw
    split at hm
    · cases hm
    · cases hm
      omega

/-- The bounds on sizes among constraints that were read are sizes. -/
theorem isSize_of_readConstraintParts {record : List (Value × Value)} {c : Constraints}
    (h : readConstraintParts record = good c) : IsSize c.maxLength ∧ IsSize c.maxItems := by
  have hparts : ∃ c', readConstraintParts record = good c' ∧ c' = c := ⟨c, h, rfl⟩
  simp only [readConstraintParts, exists_seq_iff, exists_map_iff] at hparts
  obtain ⟨_, -, _, -, _, hmaxItems, _, -, _, -, _, -, _, -, _, hmaxLength, _, -, rfl⟩ := hparts
  exact ⟨isSize_of_readPartOr hmaxLength, isSize_of_readPartOr hmaxItems⟩

/-- Constraints that were read have their sizes in order. -/
theorem sizesInOrder_of_readConstraints {v : Value} {c : Constraints}
    (h : readConstraints v = good c) : c.SizesInOrder := by
  unfold readConstraints at h
  split at h
  · cases h
    exact ⟨nofun, nofun, nofun, nofun⟩
  · obtain ⟨c', hread, hchecked⟩ := andThen_eq_good.mp h
    split at hchecked
    · cases hchecked
    · rename_i hdisorder
      cases hchecked
      rw [Constraints.disorder?, Option.or_eq_none_iff, Option.or_eq_none_iff] at hdisorder
      obtain ⟨hlengths, -, hitems⟩ := hdisorder
      obtain ⟨record, -, hrecord⟩ := readRecord_eq_good hread
      obtain ⟨hmaxLength, hmaxItems⟩ := isSize_of_readConstraintParts hrecord
      exact ⟨hmaxLength, hmaxItems, boundsInOrder_of_wrongOrder? hlengths,
        boundsInOrder_of_wrongOrder? hitems⟩

/-- **A field that was read** has its sizes in order. -/
theorem sizesInOrder_of_readField {v : Value} {d : Field} (h : readField v = good d) :
    d.constraints.SizesInOrder := by
  obtain ⟨record, -, hrecord⟩ := readRecord_eq_good h
  have hparts : ∃ d', _ = good d' ∧ d' = d := ⟨d, hrecord, rfl⟩
  simp only [exists_seq_iff, exists_map_iff] at hparts
  obtain ⟨_, -, _, -, _, -, _, -, _, -, _, -, _, -, _, -, c, hc, _, -, _, -, _, -, _, -, rfl⟩ :=
    hparts
  rcases readPartOr_eq_good hc with rfl | ⟨w, hw⟩
  · exact ⟨nofun, nofun, nofun, nofun⟩
  · exact sizesInOrder_of_readConstraints hw

/-! ## Sizes that fit -/

/-- The size of a value as a sort of field counts it: the items of a list, or the characters of a
text without the blanks around it. -/
def FieldType.sizeOf (type : FieldType) (v : Value) : Nat :=
  if type.isListLike then v.itemCount else v.strippedLength

/-- Is the rule one about the size? -/
def Rule.isOnSize : Rule → Bool
  | .minLength _ | .maxLength _ | .minItems _ | .maxItems _ => true
  | _ => false

namespace Field

/-- A field **admits** a size if its rules about the size let through every value of that size. -/
def AdmitsSize (d : Field) (n : Nat) : Prop :=
  ∀ host value answers, d.type.sizeOf value = n →
    ∀ r ∈ d.rules, r.isOnSize = true → r.obeyed host value answers = true

/-- The lower bound that the values of a field go by. -/
def leastSize? (d : Field) : Option Int :=
  if d.type.isListLike then d.constraints.minItems.or d.constraints.minLength
  else d.constraints.minLength

/-- The upper bound that the values of a field go by. -/
def greatestSize? (d : Field) : Option Int :=
  if d.type.isListLike then d.constraints.maxItems.or d.constraints.maxLength
  else d.constraints.maxLength

end Field

/-- There are lists and texts of every size. -/
theorem FieldType.exists_sizeOf (type : FieldType) (n : Nat) : ∃ v, type.sizeOf v = n := by
  unfold sizeOf
  by_cases hlist : type.isListLike = true
  · refine ⟨.list (List.replicate n .null), ?_⟩
    rw [if_pos hlist]
    simp [Value.itemCount, Value.sequence?]
  · refine ⟨.text (String.ofList (List.replicate n 'x')), ?_⟩
    have htrimmed : Text.IsTrimmed (String.ofList (List.replicate n 'x')) := by
      refine Text.isTrimmed_of_forall fun c hc => ?_
      rw [String.toList_ofList] at hc
      rw [List.eq_of_mem_replicate hc]
      rfl
    rw [if_neg hlist, Value.strippedLength, Text.strip_of_isTrimmed htrimmed]
    simp

/-- The rule about the least size of the values of a sort of field. -/
def FieldType.atLeast (type : FieldType) (n : Int) : Rule :=
  if type.isListLike then .minItems n else .minLength n

/-- The rule about their greatest size. -/
def FieldType.atMost (type : FieldType) (n : Int) : Rule :=
  if type.isListLike then .maxItems n else .maxLength n

section

variable {type : FieldType} {n : Int} {host : Host} {value : Value} {answers : Answers}

theorem FieldType.isOnSize_atLeast : (type.atLeast n).isOnSize = true := by
  unfold atLeast
  split <;> rfl

theorem FieldType.isOnSize_atMost : (type.atMost n).isOnSize = true := by
  unfold atMost
  split <;> rfl

/-- A value obeys the lower bound if its size does not fall short of it. -/
theorem FieldType.obeyed_atLeast :
    (type.atLeast n).obeyed host value answers = true ↔ n ≤ type.sizeOf value := by
  unfold atLeast sizeOf
  split
  · simp [Rule.obeyed, Rule.obeyed?, saidYes]
  · simp [Rule.obeyed, Rule.obeyed?, saidYes]

/-- A value obeys the upper bound if its size does not exceed it. -/
theorem FieldType.obeyed_atMost :
    (type.atMost n).obeyed host value answers = true ↔ type.sizeOf value ≤ n := by
  unfold atMost sizeOf
  split
  · simp [Rule.obeyed, Rule.obeyed?, saidYes]
  · simp [Rule.obeyed, Rule.obeyed?, saidYes]

end

namespace Field

variable {d : Field}

/-- The rules about the size are those of the two bounds. -/
theorem mem_rules_iff (htype : d.type.isTextLike = true ∨ d.type.isListLike = true) {r : Rule}
    (hr : r.isOnSize = true) : r ∈ d.rules ↔
      (∃ lo ∈ d.leastSize?, d.type.atLeast lo = r) ∨
        ∃ hi ∈ d.greatestSize?, d.type.atMost hi = r := by
  have hnumber : d.type ≠ .number := by
    intro h
    rw [h] at htype
    simp [FieldType.isTextLike, FieldType.isListLike] at htype
  unfold rules Constraints.rules leastSize? greatestSize? FieldType.atLeast FieldType.atMost
  by_cases hlist : d.type.isListLike = true
  · simp only [if_neg hnumber, if_pos hlist, Constraints.listRules, List.mem_append, List.mem_map,
      Option.mem_toList]
    refine or_iff_left fun hown => ?_
    obtain ⟨own, -, rfl⟩ := hown
    cases hr
  · have htext : d.type.isTextLike = true := htype.resolve_right hlist
    simp only [if_neg hnumber, if_neg hlist, if_pos htext, Constraints.textRules, List.mem_append,
      List.mem_map, Option.mem_toList]
    rw [or_iff_left, or_iff_left]
    · exact Iff.rfl
    · intro hpattern
      obtain ⟨p, -, rfl⟩ := hpattern
      cases hr
    · intro hown
      obtain ⟨own, -, rfl⟩ := hown
      cases hr

/-- **A field admits** the sizes between the two bounds that its values go by. -/
theorem admitsSize_iff (htype : d.type.isTextLike = true ∨ d.type.isListLike = true) {n : Nat} :
    d.AdmitsSize n ↔ (∀ lo ∈ d.leastSize?, lo ≤ n) ∧ ∀ hi ∈ d.greatestSize?, (n : Int) ≤ hi := by
  constructor
  · intro h
    obtain ⟨v, rfl⟩ := d.type.exists_sizeOf n
    constructor
    · intro lo hlo
      refine FieldType.obeyed_atLeast.mp (h .none v default rfl _ ?_ FieldType.isOnSize_atLeast)
      exact (mem_rules_iff htype FieldType.isOnSize_atLeast).mpr (.inl ⟨lo, hlo, rfl⟩)
    · intro hi hhi
      refine FieldType.obeyed_atMost.mp (h .none v default rfl _ ?_ FieldType.isOnSize_atMost)
      exact (mem_rules_iff htype FieldType.isOnSize_atMost).mpr (.inr ⟨hi, hhi, rfl⟩)
  · intro h host value answers hsize r hr honSize
    rcases (mem_rules_iff htype honSize).mp hr with ⟨lo, hlo, rfl⟩ | ⟨hi, hhi, rfl⟩
    · exact FieldType.obeyed_atLeast.mpr (hsize ▸ h.1 lo hlo)
    · exact FieldType.obeyed_atMost.mpr (hsize ▸ h.2 hi hhi)

/-- Some size is admitted exactly if the bounds are in order, provided the upper one is a size. -/
theorem exists_admitsSize_iff (htype : d.type.isTextLike = true ∨ d.type.isListLike = true)
    (hsize : IsSize d.greatestSize?) :
    (∃ n, d.AdmitsSize n) ↔ BoundsInOrder d.leastSize? d.greatestSize? := by
  constructor
  · intro h lo hlo hi hhi
    obtain ⟨n, hn⟩ := h
    obtain ⟨hleast, hgreatest⟩ := (admitsSize_iff htype).mp hn
    exact (hleast lo hlo).trans (hgreatest hi hhi)
  · intro h
    -- the least size of all is the lower bound, where that is not below zero
    refine ⟨(d.leastSize?.getD 0).toNat, (admitsSize_iff htype).mpr ⟨?_, ?_⟩⟩
    · intro lo hlo
      rw [Option.mem_def.mp hlo, Option.getD_some]
      omega
    · intro hi hhi
      have hnonneg := hsize hi hhi
      cases hleast : d.leastSize? with
      | none => simpa using hnonneg
      | some lo =>
        have hle := h lo hleast hi hhi
        rw [Option.getD_some]
        omega

end Field

/-- A list takes one bound from the items and the other, for want of one on the items, from the
length, and these two **cross**. -/
def Constraints.Cross (c : Constraints) : Prop :=
  (∃ lo ∈ c.minItems, ∃ hi ∈ c.maxLength, c.maxItems = none ∧ hi < lo) ∨
    ∃ lo ∈ c.minLength, ∃ hi ∈ c.maxItems, c.minItems = none ∧ hi < lo

/-- With bounds of each sort in order, those that a list goes by are in order unless they cross. -/
theorem Constraints.SizesInOrder.boundsInOrder_iff {c : Constraints} (h : c.SizesInOrder) :
    BoundsInOrder (c.minItems.or c.minLength) (c.maxItems.or c.maxLength) ↔ ¬ c.Cross := by
  unfold Cross
  cases hleast : c.minItems with
  | none =>
    rw [Option.none_or]
    cases hgreatest : c.maxItems with
    | none => exact iff_of_true h.lengths (by simp)
    | some hi => simp [BoundsInOrder]
  | some lo =>
    rw [Option.some_or]
    cases hgreatest : c.maxItems with
    | none => simp [BoundsInOrder]
    | some hi =>
      have hitems : BoundsInOrder (some lo) (some hi) := hleast ▸ hgreatest ▸ h.items
      exact iff_of_true hitems (by simp)

/-- A text is no list. -/
theorem FieldType.not_isListLike_of_isTextLike (type : FieldType) (h : type.isTextLike = true) :
    ¬ type.isListLike = true := by
  cases type <;> simp [isTextLike, isListLike] at h ⊢

/-- **Sizes fit unless bounds cross.**  Of a field that was read, some size is admitted exactly if
the lower bound that its values go by does not exceed the upper one.  For texts that is so; for
lists it is so unless a bound on items and a bound on the length cross. -/
theorem exists_admittedSize_iff {v : Value} {d : Field} (h : readField v = .good d)
    (htype : d.type.isTextLike = true ∨ d.type.isListLike = true) :
    ((∃ n, d.AdmitsSize n) ↔ ∀ lo ∈ d.leastSize?, ∀ hi ∈ d.greatestSize?, lo ≤ hi) ∧
      (d.type.isTextLike = true → ∃ n, d.AdmitsSize n) ∧
      (d.type.isListLike = true → ((∃ n, d.AdmitsSize n) ↔ ¬ d.constraints.Cross)) := by
  have horder := sizesInOrder_of_readField h
  have hiff : (∃ n, d.AdmitsSize n) ↔ BoundsInOrder d.leastSize? d.greatestSize? := by
    refine Field.exists_admitsSize_iff htype fun n hn => ?_
    unfold Field.greatestSize? at hn
    split at hn
    · rcases Option.or_eq_some_iff.mp hn with hitems | ⟨-, hlength⟩
      · exact horder.maxItems n hitems
      · exact horder.maxLength n hlength
    · exact horder.maxLength n hn
  refine ⟨hiff, ?_, ?_⟩
  · intro htext
    have hlist : ¬ d.type.isListLike = true := d.type.not_isListLike_of_isTextLike htext
    rw [hiff, Field.leastSize?, Field.greatestSize?, if_neg hlist, if_neg hlist]
    exact horder.lengths
  · intro hlist
    rw [hiff, Field.leastSize?, Field.greatestSize?, if_pos hlist, if_pos hlist]
    exact horder.boundsInOrder_iff

/-- A field for lists with a lower bound on the items and an upper bound on the length. -/
def mixedField (least greatest : Int) : Value :=
  .dict [(.text "name", .text "tags"), (.text "type", .text "multiSelect"),
    (.text "validation", .dict
      [(.text "minItems", .int least), (.text "maxLength", .int greatest)])]

/-- What is read of such a field. -/
def mixed (least greatest : Int) : Field where
  name := "tags"
  type := .multiSelect
  constraints := { minItems := some least, maxLength := some greatest }

/-- Whatever the two bounds are, such a field is read. -/
theorem readField_mixedField {least greatest : Int} (hleast : 0 ≤ least)
    (hgreatest : 0 ≤ greatest) :
    readField (mixedField least greatest) = good (mixed least greatest) := by
  have hsize : ∀ n : Int, 0 ≤ n → readOption (readIntegerFrom 0) (.int n) = good (some n) := by
    intro n hn
    have hread : readIntegerFrom 0 (.int n) = good n := if_neg (Int.not_lt.mpr hn)
    rw [readOption, hread]
    · rfl
    · simp
  simp [readField, readRecord, readPart, readPartOr, entryOf?, mixedField, Value.eqv_text,
    Value.lookupEntry, readConstraints, readConstraintParts, hsize _ hleast, hsize _ hgreatest]
  rfl

/-- One to three items fit. -/
theorem exists_admittedSize_mixed : readField (mixedField 1 3) = good (mixed 1 3) ∧
    ∃ n, (mixed 1 3).AdmitsSize n := by
  have hread : readField (mixedField 1 3) = good (mixed 1 3) :=
    readField_mixedField (by decide) (by decide)
  refine ⟨hread, (exists_admittedSize_iff hread (.inr rfl)).1.mpr ?_⟩
  intro lo hlo hi hhi
  cases hlo
  cases hhi
  decide

/-- No list has at least two items and a length of at most one, and still such a field is read. -/
theorem crossed_admits_no_size : readField (mixedField 2 1) = good (mixed 2 1) ∧
    (mixed 2 1).type.isListLike = true ∧ ¬ ∃ n, (mixed 2 1).AdmitsSize n := by
  refine ⟨readField_mixedField (by decide) (by decide), rfl, ?_⟩
  intro h
  obtain ⟨n, hn⟩ := h
  obtain ⟨hleast, hgreatest⟩ := (Field.admitsSize_iff (.inr rfl)).mp hn
  have hlow : (2 : Int) ≤ n := hleast 2 rfl
  have hhigh : (n : Int) ≤ 1 := hgreatest 1 rfl
  omega

end Intake
