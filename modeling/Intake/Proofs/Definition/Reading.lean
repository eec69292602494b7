import Intake.Definition.Fields
import Mathlib.Data.List.Basic

/-!
# When reading comes to a halt

Reading data collects issues, and hardly anything stops it.  As every part is read whatever the
parts before it gave, a record halts its reading exactly if one of its parts does; and of all that
is written in a field only two things do: choices that have no items, and a pattern in which a
number of repetitions is too large.

* `Reading.halts_both`, `Reading.halts_andThen` and `halts_readItems` say when readings that are
  made of others halt;
* `halts_readConstraints` is about a block of constraints, `halts_readChoices` about choices;
* `halts_readField` is the conclusion for fields, `halts_readForm` for forms.
-/

namespace Intake

namespace Reading

variable {α β : Type}

/-- A reading **halts** if it gives neither a value nor issues. -/
def Halts (r : Reading α) : Prop := ∃ f, r = .error f

@[simp]
theorem not_halts_good (x : α) : ¬ (good x).Halts := nofun

@[simp]
theorem not_halts_bad (cause : IssueCause) : ¬ (bad cause : Reading α).Halts := nofun

@[simp]
theorem halts_halt (f : Fault) : (halt f : Reading α).Halts := ⟨f, rfl⟩

/-- Two readings halt if one of them does. -/
@[simp]
theorem halts_both {f : Reading (α → β)} {x : Unit → Reading α} :
    (both f x).Halts ↔ f.Halts ∨ (x ()).Halts := by
  rcases f with fault | issues | g
  · exact iff_of_true ⟨fault, rfl⟩ (.inl ⟨fault, rfl⟩)
  · rw [both]
    rcases x () with fault | more | a
    · exact iff_of_true ⟨fault, rfl⟩ (.inr ⟨fault, rfl⟩)
    · exact iff_of_false nofun (not_or.mpr ⟨nofun, nofun⟩)
    · exact iff_of_false nofun (not_or.mpr ⟨nofun, nofun⟩)
  · rw [both]
    rcases x () with fault | more | a
    · exact iff_of_true ⟨fault, rfl⟩ (.inr ⟨fault, rfl⟩)
    · exact iff_of_false nofun (not_or.mpr ⟨nofun, nofun⟩)
    · exact iff_of_false nofun (not_or.mpr ⟨nofun, nofun⟩)

@[simp]
theorem halts_seq {f : Reading (α → β)} {x : Reading α} :
    (f <*> x).Halts ↔ f.Halts ∨ x.Halts := halts_both

/-- What a value is changed into does not matter. -/
@[simp]
theorem halts_map {f : α → β} {r : Reading α} : (f <$> r).Halts ↔ r.Halts := by
  show (both (good f) fun _ => r).Halts ↔ _
  simp

/-- Seen from further out a reading halts just the same. -/
@[simp]
theorem halts_under {step : Step} {r : Reading α} : (r.under step).Halts ↔ r.Halts := by
  rcases r with fault | issues | a
  · exact Iff.rfl
  · exact iff_of_false nofun nofun
  · exact Iff.rfl

/-- A further reading is only made of a value. -/
@[simp]
theorem halts_andThen {r : Reading α} {f : α → Reading β} :
    (r.andThen f).Halts ↔ r.Halts ∨ ∃ a, r = good a ∧ (f a).Halts := by
  rcases r with fault | issues | a
  · exact iff_of_true ⟨fault, rfl⟩ (.inl ⟨fault, rfl⟩)
  · refine iff_of_false nofun ?_
    rintro (⟨_, h⟩ | ⟨_, h, -⟩) <;> cases h
  · constructor
    · exact fun h => .inr ⟨a, rfl, h⟩
    · rintro (⟨_, h⟩ | ⟨b, hb, h⟩)
      · cases h
      · cases hb
        exact h

end Reading

open Reading

section Parts

variable {α : Type} {record : List (Value × Value)}

/-- Items halt their reading if one of them does. -/
@[simp]
theorem halts_readItems {read : Value → Reading α} {index : Nat} {items : List Value} :
    (readItems read index items).Halts ↔ ∃ v ∈ items, (read v).Halts := by
  induction items generalizing index with
  | nil => simp [readItems]
  | cons v rest ih => simp [readItems, ih]

/-- A part that has to be there halts a reading if it is there and does. -/
@[simp]
theorem halts_readPart {spellings : List String} {read : Value → Reading α} :
    (readPart record spellings read).Halts ↔
      ∃ spelling v, entryOf? record spellings = some (spelling, v) ∧ (read v).Halts := by
  unfold readPart
  cases entryOf? record spellings with
  | none => simp
  | some e =>
    obtain ⟨spelling, v⟩ := e
    simp

/-- So does a part that may be missing. -/
@[simp]
theorem halts_readPartOr {spellings : List String} {other : α} {read : Value → Reading α} :
    (readPartOr record spellings other read).Halts ↔
      ∃ spelling v, entryOf? record spellings = some (spelling, v) ∧ (read v).Halts := by
  unfold readPartOr
  cases entryOf? record spellings with
  | none => simp
  | some e =>
    obtain ⟨spelling, v⟩ := e
    simp

/-- What may be nothing halts a reading only if it is something. -/
@[simp]
theorem halts_readOption {read : Value → Reading α} {v : Value} :
    (readOption read v).Halts ↔ v ≠ .null ∧ (read v).Halts := by
  cases v <;> simp [readOption]

/-- A record halts its reading if its parts do. -/
@[simp]
theorem halts_readRecord {name : String} {read : List (Value × Value) → Reading α} {v : Value} :
    (readRecord name read v).Halts ↔ ∃ r, v = .dict r ∧ (read r).Halts := by
  cases v <;> simp [readRecord]

/-- A part of one spelling is what stands under it. -/
theorem entryOf?_single {key spelling : String} {v : Value} :
    entryOf? record [key] = some (spelling, v) ↔
      spelling = key ∧ Value.lookupEntry (.text key) record = some v := by
  rw [entryOf?]
  cases Value.lookupEntry (.text key) record with
  | none => simp [entryOf?]
  | some w =>
    simp only [Option.some.injEq, Prod.mk.injEq]
    exact and_congr_left' eq_comm

end Parts

/-! ## What does not halt -/

section Plain

variable (v : Value)

@[simp]
theorem not_halts_readText : ¬ (readText v).Halts := by
  cases v <;> exact nofun

/-- A text is read as itself, and nothing else is read as a text. -/
theorem readText_eq_good {s : String} : readText v = good s ↔ v = .text s := by
  constructor
  · intro h
    cases v with
    | text t =>
      cases h
      rfl
    | _ => cases h
  · rintro rfl
    rfl

@[simp]
theorem not_halts_readName : ¬ (readName v).Halts := by
  unfold readName
  simp only [halts_andThen, not_halts_readText, false_or, not_exists, not_and]
  intro s _
  split <;> exact nofun

@[simp]
theorem not_halts_readAny : ¬ (readAny v).Halts := nofun

@[simp]
theorem not_halts_readCallable : ¬ (readCallable v).Halts := by
  cases v <;> exact nofun

/-- No integer halts the reading of a truth value. -/
theorem not_halts_integerBoolean (n : Int) : ¬ (integerBoolean n).Halts := by
  unfold integerBoolean
  split
  · exact nofun
  split
  · exact nofun
  split <;> exact nofun

@[simp]
theorem not_halts_readBoolean : ¬ (readBoolean v).Halts := by
  cases v with
  | int n => exact not_halts_integerBoolean n
  | float x =>
    rw [readBoolean]
    cases x.toInt? with
    | none => exact nofun
    | some n => exact not_halts_integerBoolean n
  | text s =>
    rw [readBoolean]
    split <;> exact nofun
  | _ => exact nofun

/-- No text halts the reading of an integer. -/
theorem not_halts_integerText (s : String) : ¬ (integerText s).Halts := by
  unfold integerText
  dsimp only
  split
  · exact nofun
  split
  · exact nofun
  split <;> exact nofun

@[simp]
theorem not_halts_readInteger : ¬ (readInteger v).Halts := by
  cases v with
  | float x =>
    rw [readInteger]
    split
    · exact nofun
    split
    · exact nofun
    split <;> exact nofun
  | text s => exact not_halts_integerText s
  | _ => exact nofun

@[simp]
theorem not_halts_readIntegerFrom (least : Int) : ¬ (readIntegerFrom least v).Halts := by
  unfold readIntegerFrom
  simp only [halts_andThen, not_halts_readInteger, false_or, not_exists, not_and]
  intro n _
  split <;> exact nofun

/-- No text halts the reading of a floating-point number. -/
theorem not_halts_floatText (s : String) : ¬ (floatText s).Halts := by
  unfold floatText
  dsimp only
  split
  · exact not_halts_good _
  · exact not_halts_bad _

@[simp]
theorem not_halts_readFloat : ¬ (readFloat v).Halts := by
  -- what finds the number nearest to an integer is kept apart, as it would be worked out here
  have h : ∀ nearest?, nearest? = Binary64.ofInt? → ¬ (readFloat v).Halts := by
    intro nearest? hnearest
    unfold readFloat
    rw [← hnearest]
    cases v with
    | int n =>
      dsimp only
      cases nearest? n with
      | none => exact not_halts_bad _
      | some x => exact not_halts_good x
    | bool b => exact not_halts_good _
    | float x => exact not_halts_good x
    | text s => exact not_halts_floatText s
    | _ => exact not_halts_bad _
  exact h _ rfl

@[simp]
theorem not_halts_readBound : ¬ (readBound v).Halts := by
  unfold readBound
  split
  · exact nofun
  split
  · exact nofun
  split
  · exact nofun
  · simp

@[simp]
theorem not_halts_readOwnRule : ¬ (readOwnRule v).Halts := by
  cases v <;> simp [readOwnRule]

@[simp]
theorem not_halts_readClause : ¬ (readClause v).Halts := by
  simp [readClause, readClauseParts]

@[simp]
theorem not_halts_readCondition : ¬ (readCondition v).Halts := by
  simp [readCondition, readClauseParts]

@[simp]
theorem not_halts_readUsing : ¬ (readUsing v).Halts := by
  cases v with
  | text s =>
    rw [readUsing]
    split <;> exact nofun
  | _ => exact nofun

@[simp]
theorem not_halts_readDerivation : ¬ (readDerivation v).Halts := by
  simp [readDerivation]

@[simp]
theorem not_halts_readFieldType : ¬ (readFieldType v).Halts := by
  cases v with
  | text s =>
    rw [readFieldType]
    split <;> exact nofun
  | _ => exact nofun

@[simp]
theorem not_halts_readChoice : ¬ (readChoice v).Halts := by
  cases v <;> simp [readChoice]

end Plain

/-! ## What does -/

/-- Choices halt their reading if they are there and have no items. -/
@[simp]
theorem halts_readChoices {v : Value} :
    (readChoices v).Halts ↔ v ≠ .null ∧ ∃ f, v.items? = .error f := by
  unfold readChoices
  split
  · simp
  · rename_i hfull
    cases v.items? with
    | error f => simpa using hfull
    | ok items => simp

/-- A pattern halts its reading if a number of repetitions in it is too large. -/
@[simp]
theorem halts_readPattern {v : Value} : (readPattern v).Halts ↔
    ∃ s, v = .text s ∧ TextPattern.read s = .error .repetitionTooLarge := by
  unfold readPattern
  simp only [halts_andThen, not_halts_readText, false_or, readText_eq_good]
  refine exists_congr fun s => and_congr_right fun _ => ?_
  cases TextPattern.read s with
  | ok p => simp
  | error e => cases e <;> simp

/-- The choices written in the record of a field have no items. -/
def HaltsByChoices (record : List (Value × Value)) : Prop :=
  ∃ v, Value.lookupEntry (.text "options") record = some v ∧ v ≠ .null ∧ ∃ f, v.items? = .error f

/-- In the pattern written in the record of a field a number of repetitions is too large. -/
def HaltsByPattern (record : List (Value × Value)) : Prop :=
  ∃ constraints, Value.lookupEntry (.text "validation") record = some (.dict constraints) ∧
    ∃ s, Value.lookupEntry (.text "pattern") constraints = some (.text s) ∧
      TextPattern.read s = .error .repetitionTooLarge

/-- The record of a field **halts its reading** by its pattern or its choices. -/
def HaltsReading (record : List (Value × Value)) : Prop :=
  HaltsByPattern record ∨ HaltsByChoices record

/-- Constraints halt their reading only by their pattern. -/
@[simp]
theorem halts_readConstraints {v : Value} : (readConstraints v).Halts ↔
    ∃ constraints, v = .dict constraints ∧
      ∃ s, Value.lookupEntry (.text "pattern") constraints = some (.text s) ∧
        TextPattern.read s = .error .repetitionTooLarge := by
  unfold readConstraints
  split
  · simp
  · rw [halts_andThen, or_iff_left]
    · simp [readConstraintParts, entryOf?_single]
    · rintro ⟨c, -, h⟩
      split at h
      · exact not_halts_bad _ h
      · exact not_halts_good c h

/-- **A field halts its reading** exactly by its choices or its pattern. -/
@[simp]
theorem halts_readField {v : Value} : (readField v).Halts ↔
    ∃ record, v = .dict record ∧ HaltsReading record := by
  simp [readField, entryOf?_single, HaltsReading, HaltsByChoices, HaltsByPattern]

/-- **The parts of a form halt their reading** exactly if one of its fields does. -/
theorem halts_readForm {name : Value} {fields : List Value} : (readForm name fields).Halts ↔
    ∃ record, .dict record ∈ fields ∧ HaltsReading record := by
  simp [readForm]

end Intake
