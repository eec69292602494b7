import Intake.Value.Shown
import Mathlib.Data.Nat.Digits.Lemmas

/-!
# Values that cannot be written out

Only one thing keeps a value from being written out: an integer of more than 4300 digits, however
deep it lies.  So of everything that writes values out it can be said when it fails, and it fails in
one way only.

* `FailsIff` says of a computation when it fails, and `FailsAs.bind`, `FailsAs.mapM` and others
  say it of what computations are made of;
* `Value.HasLongInteger` says that a value has such an integer in it;
* `Value.shown?_failsIff` and `Value.text?_failsIff` say that this is when it is not written out.
-/

namespace Intake

/-! ## When a computation fails -/

/-- A computation **fails exactly if** something holds, and then with one of some faults. -/
structure FailsAs {α : Type} (expected : Fault → Prop) (x : Except Fault α) (p : Prop) : Prop where
  fails : p → ∃ f, x = .error f ∧ expected f
  returns : ¬ p → ∃ a, x = .ok a

/-- A computation fails exactly if something holds, and then because of too many digits. -/
abbrev FailsIff {α : Type} (x : Except Fault α) (p : Prop) : Prop :=
  FailsAs (· = .tooManyDigits) x p

namespace FailsAs

variable {α β : Type} {expected expected' : Fault → Prop} {x : Except Fault α} {p q : Prop}

theorem ok (a : α) : FailsAs expected (.ok a) False := ⟨nofun, fun _ => ⟨a, rfl⟩⟩

theorem error {f : Fault} (h : expected f) : FailsAs expected (.error f : Except Fault α) True :=
  ⟨fun _ => ⟨f, rfl, h⟩, fun h => absurd trivial h⟩

theorem congr (h : FailsAs expected x p) (hpq : p ↔ q) : FailsAs expected x q :=
  ⟨fun hq => h.fails (hpq.mpr hq), fun hq => h.returns fun hp => hq (hpq.mp hp)⟩

/-- More faults can be expected than there are. -/
theorem mono (h : FailsAs expected x p) (hmore : ∀ f, expected f → expected' f) :
    FailsAs expected' x p where
  fails hp := (h.fails hp).imp fun f hf => ⟨hf.1, hmore f hf.2⟩
  returns := h.returns

/-- What a result is changed into does not matter. -/
theorem map (h : FailsAs expected x p) (f : α → β) : FailsAs expected (x.map f) p where
  fails hp := by
    obtain ⟨fault, hfault, hexpected⟩ := h.fails hp
    exact ⟨fault, by rw [hfault]; rfl, hexpected⟩
  returns hp := by
    obtain ⟨a, ha⟩ := h.returns hp
    exact ⟨f a, by rw [ha]; rfl⟩

/-- Two steps fail if the first one fails, or the second one with the result of the first. -/
theorem bind {f : α → Except Fault β} {q : α → Prop} (h : FailsAs expected x p)
    (hf : ∀ a, x = .ok a → FailsAs expected (f a) (q a)) :
    FailsAs expected (x >>= f) (p ∨ ∃ a, x = .ok a ∧ q a) where
  fails := by
    rintro (hp | ⟨a, ha, hq⟩)
    · obtain ⟨fault, hfault, hexpected⟩ := h.fails hp
      exact ⟨fault, by rw [hfault]; rfl, hexpected⟩
    · rw [ha]; exact (hf a ha).fails hq
  returns hnot := by
    obtain ⟨a, ha⟩ := h.returns fun hp => hnot (.inl hp)
    rw [ha]
    exact (hf a ha).returns fun hq => hnot (.inr ⟨a, ha, hq⟩)

/-- If it does not matter to the second step what the first one's result is, either may fail. -/
theorem andThen {f : α → Except Fault β} (h : FailsAs expected x p)
    (hf : ∀ a, FailsAs expected (f a) q) : FailsAs expected (x >>= f) (p ∨ q) :=
  (h.bind fun a _ => hf a).congr <| by
    constructor
    · rintro (hp | ⟨_, _, hq⟩)
      exacts [.inl hp, .inr hq]
    · rintro (hp | hq)
      · exact .inl hp
      · by_cases hp : p
        · exact .inl hp
        · obtain ⟨a, ha⟩ := h.returns hp
          exact .inr ⟨a, ha, hq⟩

/-- A choice fails if the one that is chosen does. -/
theorem ite {c : Prop} [Decidable c] {y : Except Fault α} (hx : FailsAs expected x p)
    (hy : FailsAs expected y q) : FailsAs expected (if c then x else y) (if c then p else q) := by
  by_cases hc : c
  · simpa only [if_pos hc] using hx
  · simpa only [if_neg hc] using hy

/-- A list fails if one of its items does. -/
theorem mapM {f : α → Except Fault β} {q : α → Prop} {items : List α}
    (h : ∀ a ∈ items, FailsAs expected (f a) (q a)) :
    FailsAs expected (items.mapM f) (∃ a ∈ items, q a) := by
  induction items with
  | nil => exact (ok []).congr (by simp)
  | cons first rest ih =>
    obtain ⟨hfirst, hrest⟩ := List.forall_mem_cons.mp h
    rw [List.mapM_cons]
    refine (hfirst.bind fun b _ => (ih hrest).bind fun bs _ => ok (b :: bs)).congr ?_
    constructor
    · rintro (hq | ⟨b, hb, hlater | ⟨bs, hbs, hfalse⟩⟩)
      · exact ⟨first, List.mem_cons_self, hq⟩
      · exact hlater.imp fun a ha => ⟨List.mem_cons_of_mem _ ha.1, ha.2⟩
      · exact hfalse.elim
    · rintro ⟨a, ha, hq⟩
      by_cases hp : q first
      · exact .inl hp
      · obtain ⟨b, hb⟩ := hfirst.returns hp
        rcases List.mem_cons.mp ha with rfl | ha
        · exact absurd hq hp
        · exact .inr ⟨b, hb, .inl ⟨a, ha, hq⟩⟩

/-- It is known when there is a fault. -/
theorem exists_iff (h : FailsAs expected x p) : (∃ f, x = .error f) ↔ p := by
  constructor
  · rintro ⟨f, hf⟩
    by_contra hp
    obtain ⟨a, ha⟩ := h.returns hp
    cases hf.symm.trans ha
  · intro hp
    obtain ⟨f, hf, -⟩ := h.fails hp
    exact ⟨f, hf⟩

/-- There is no fault but those that are expected. -/
theorem expected_of_error (h : FailsAs expected x p) {f : Fault} (hf : x = .error f) :
    expected f := by
  obtain ⟨f', hf', hexpected⟩ := h.fails (h.exists_iff.mp ⟨f, hf⟩)
  cases hf.symm.trans hf'
  exact hexpected

/-- Where no fault is to be expected there is none. -/
theorem returns_of_not_expected (h : FailsAs expected x p) (hnone : ∀ f, ¬ expected f) :
    ∃ a, x = .ok a :=
  h.returns fun hp => by
    obtain ⟨f, -, hf⟩ := h.fails hp
    exact hnone f hf

end FailsAs

theorem FailsIff.tooManyDigits {α : Type} :
    FailsIff (.error .tooManyDigits : Except Fault α) True :=
  FailsAs.error rfl

theorem FailsIff.eq_error {α : Type} {x : Except Fault α} {p : Prop} (h : FailsIff x p) (hp : p) :
    x = .error .tooManyDigits := by
  obtain ⟨f, hf, rfl⟩ := h.fails hp
  exact hf

namespace Value

/-! ## Integers of too many digits -/

/-- An integer is **long** if it has more digits than are written. -/
def IsLong (n : Int) : Prop := 10 ^ digitLimit ≤ n.natAbs

/-- The least power of ten that is long. -/
theorem isLong_pow : IsLong (10 ^ digitLimit) := by
  rw [IsLong, Int.natAbs_pow]
  exact Nat.pow_le_pow_left (by decide) digitLimit

/-- Long integers are not written. -/
theorem intText?_failsIff (n : Int) : FailsIff (intText? n) (IsLong n) := by
  have hlength : (toString n.natAbs).length ≤ digitLimit ↔ ¬ IsLong n := by
    rw [Nat.toString_eq_repr, ← String.length_toList, Nat.toList_repr, IsLong, not_le]
    exact Nat.length_toDigits_le_iff (by decide) (by decide)
  unfold intText?
  dsimp only
  by_cases hlong : IsLong n
  · rw [if_pos (Nat.lt_of_not_le fun h => hlength.mp h hlong)]
    exact FailsIff.tooManyDigits.congr (iff_of_true trivial hlong)
  · rw [if_neg (hlength.mpr hlong).not_gt]
    exact (FailsAs.ok _).congr (iff_of_false id hlong)

/-- A value **has a long integer** if one lies in it, be it as the argument of a predicate. -/
inductive HasLongInteger : Value → Prop where
  | int {n : Int} (h : IsLong n) : HasLongInteger (.int n)
  | list {items : List Value} {v : Value} (hv : v ∈ items) (h : HasLongInteger v) :
      HasLongInteger (.list items)
  | tuple {items : List Value} {v : Value} (hv : v ∈ items) (h : HasLongInteger v) :
      HasLongInteger (.tuple items)
  | set {items : List Value} {v : Value} (hv : v ∈ items) (h : HasLongInteger v) :
      HasLongInteger (.set items)
  | key {entries : List (Value × Value)} {e : Value × Value} (he : e ∈ entries)
      (h : HasLongInteger e.1) : HasLongInteger (.dict entries)
  | value {entries : List (Value × Value)} {e : Value × Value} (he : e ∈ entries)
      (h : HasLongInteger e.2) : HasLongInteger (.dict entries)
  | equals {expected : Value} {identity : Identity} (h : HasLongInteger expected) :
      HasLongInteger (.callable (.predicate (.equals expected) identity))
  | contains {item : Value} {identity : Identity} (h : HasLongInteger item) :
      HasLongInteger (.callable (.predicate (.contains item) identity))
  | rule {test : Callable Value} {message : String} (h : HasLongInteger (.callable test)) :
      HasLongInteger (.rule test message)

/-- A dictionary has a long integer if one of its keys or values has. -/
theorem hasLongInteger_dict_iff {entries : List (Value × Value)} :
    HasLongInteger (.dict entries) ↔ ∃ e ∈ entries, e.1.HasLongInteger ∨ e.2.HasLongInteger := by
  constructor
  · intro h
    cases h with
    | key he hkey => exact ⟨_, he, .inl hkey⟩
    | value he hvalue => exact ⟨_, he, .inr hvalue⟩
  · rintro ⟨e, he, hkey | hvalue⟩
    · exact .key he hkey
    · exact .value he hvalue

mutual

/-- **A value is not written out as part of another one** exactly if it has a long integer. -/
theorem shown?_failsIff : ∀ v : Value, FailsIff v.shown? v.HasLongInteger
  | .null => (FailsAs.ok _).congr (iff_of_false id nofun)
  | .bool _ => (FailsAs.ok _).congr (iff_of_false id nofun)
  | .int n => (intText?_failsIff n).congr ⟨.int, fun | .int h => h⟩
  | .float _ => (FailsAs.ok _).congr (iff_of_false id nofun)
  | .text _ => (FailsAs.ok _).congr (iff_of_false id nofun)
  | .list items => by
    rw [shown?]
    exact ((shownAll?_failsIff items).map _).congr
      ⟨fun ⟨_, hv, h⟩ => .list hv h, fun | .list hv h => ⟨_, hv, h⟩⟩
  | .tuple items => by
    rw [shown?]
    exact ((shownAll?_failsIff items).map _).congr
      ⟨fun ⟨_, hv, h⟩ => .tuple hv h, fun | .tuple hv h => ⟨_, hv, h⟩⟩
  | .set items => by
    rw [shown?]
    exact ((shownAll?_failsIff items).map _).congr
      ⟨fun ⟨_, hv, h⟩ => .set hv h, fun | .set hv h => ⟨_, hv, h⟩⟩
  | .day _ => (FailsAs.ok _).congr (iff_of_false id nofun)
  | .moment _ => (FailsAs.ok _).congr (iff_of_false id nofun)
  | .dict entries => by
    rw [shown?]
    exact ((shownEntries?_failsIff entries).map _).congr hasLongInteger_dict_iff.symm
  | .callable f => by
    rw [shown?]
    exact (callableName?_failsIff f).map _
  | .rule test _ => by
    rw [shown?]
    exact ((callableName?_failsIff test).map _).congr ⟨.rule, fun | .rule h => h⟩

/-- Values are not written out if one of them is not. -/
theorem shownAll?_failsIff : ∀ items : List Value,
    FailsIff (shownAll? items) (∃ v ∈ items, v.HasLongInteger)
  | [] => (FailsAs.ok _).congr (by simp)
  | v :: items => by
    rw [shownAll?]
    exact ((shown?_failsIff v).andThen fun _ => (shownAll?_failsIff items).andThen fun _ =>
      FailsAs.ok _).congr (by simp)

/-- Entries are not written out if the key or the value of one of them is not. -/
theorem shownEntries?_failsIff : ∀ entries : List (Value × Value),
    FailsIff (shownEntries? entries)
      (∃ e ∈ entries, e.1.HasLongInteger ∨ e.2.HasLongInteger)
  | [] => (FailsAs.ok _).congr (by simp)
  | (k, v) :: entries => by
    rw [shownEntries?]
    exact ((shown?_failsIff k).andThen fun _ => (shown?_failsIff v).andThen fun _ =>
      (shownEntries?_failsIff entries).andThen fun _ => FailsAs.ok _).congr
        (by simp [or_assoc])

/-- The name of a function is not written out if it is that of a predicate with a long integer. -/
theorem callableName?_failsIff : ∀ f : Callable Value,
    FailsIff (callableName? f) (HasLongInteger (.callable f))
  | .predicate p identity => predicateName?_failsIff p identity
  | .test .. => (FailsAs.ok _).congr (iff_of_false id nofun)
  | .cleaner c => by
    cases c <;> exact (FailsAs.ok _).congr (iff_of_false id nofun)
  | .host _ => (FailsAs.ok _).congr (iff_of_false id nofun)

/-- The name of a predicate is not written out if its argument has a long integer. -/
theorem predicateName?_failsIff : ∀ (p : Predicate Value) (identity : Identity),
    FailsIff (predicateName? p) (HasLongInteger (.callable (.predicate p identity)))
  | .equals expected, _ => by
    rw [predicateName?]
    exact ((shown?_failsIff expected).map _).congr ⟨.equals, fun | .equals h => h⟩
  | .contains item, _ => by
    rw [predicateName?]
    exact ((shown?_failsIff item).map _).congr ⟨.contains, fun | .contains h => h⟩
  | .isTruthy, _ => (FailsAs.ok _).congr (iff_of_false id nofun)
  | .notEmpty, _ => (FailsAs.ok _).congr (iff_of_false id nofun)

end

/-- **A value by itself is not written out** exactly if it has a long integer. -/
theorem text?_failsIff (v : Value) : FailsIff v.text? v.HasLongInteger := by
  cases v with
  | text s => exact (FailsAs.ok _).congr (iff_of_false id nofun)
  | day d => exact (FailsAs.ok _).congr (iff_of_false id nofun)
  | moment m => exact (FailsAs.ok _).congr (iff_of_false id nofun)
  | _ => exact shown?_failsIff _

end Value

end Intake
