import Intake.Proofs.Number.Nearest
import Intake.Value.Equality
import Mathlib.Data.Fintype.EquivFin

/-!
# Equality of values goes both ways

Values are compared from left to right: each item of a set on the left is looked for on the right,
and the sets are counted.  Turned round, it comes to the same, provided that no item of the left set
is there twice.  For then no two items find the same one, so that all of the right set are found.
Whether two items are the same is again a question of equality, so that equality passes on is shown
before.

* `Value.extent?` is what numbers of all sorts are compared by;
* `Value.Agree` says case by case what it is for two values to be equal, and `eqv_iff_agree` that
  this is what is computed;
* `Value.IsProper` holds of values whose sets and dictionaries, however deep, have nothing twice;
* `IsProper.eqv_trans` and `IsProper.eqv_symm` are the conclusions;
* `isProper_set_distinct` and `isProper_dict_setEntry` say that sets and dictionaries that are made
  item by item are proper.
-/

namespace Intake

/-! ## What numbers are compared by -/

/-- How large a number is: so many grains, or without end. -/
inductive Extent where
  | grains (n : Int)
  | infinite (negative : Bool)

namespace Binary64

/-- How large a number is, if it is one. -/
def extent? : Binary64 → Option Extent
  | .nan => none
  | .infinite negative => some (.infinite negative)
  | .finite negative m p _ =>
    some (.grains (if negative then -((m <<< p : Nat) : Int) else ((m <<< p : Nat) : Int)))

/-- Two numbers are equal exactly if they are as large as each other. -/
theorem eqv_iff {x y : Binary64} :
    x.eqv y = true ↔ ∃ e, x.extent? = some e ∧ y.extent? = some e := by
  cases x with
  | nan => simp [eqv, compare?, extent?]
  | infinite a =>
    cases y with
    | nan => simp [eqv, compare?, extent?]
    | infinite b => cases a <;> cases b <;> simp [eqv, compare?, extent?]
    | finite b n q _ => cases a <;> simp [eqv, compare?, extent?]
  | finite a m p _ =>
    cases y with
    | nan => simp [eqv, compare?, extent?]
    | infinite b => cases b <;> simp [eqv, compare?, extent?]
    | finite b n q _ =>
      simp only [eqv, compare?, extent?, beq_iff_eq, Option.some.injEq, compare_eq_iff_eq,
        exists_eq_left', Extent.grains.injEq]
      exact eq_comm

/-- A number equals an integer exactly if it has its grains. -/
theorem eqvInt_iff {x : Binary64} {n : Int} :
    x.eqvInt n = true ↔ x.extent? = some (.grains (n * grainsPerUnit)) := by
  cases x with
  | nan => simp [eqvInt, compareInt?, extent?]
  | infinite a => cases a <;> simp [eqvInt, compareInt?, extent?]
  | finite a m p _ => simp [eqvInt, compareInt?, extent?]

/-- Integers with the same grains are the same. -/
theorem mul_grainsPerUnit_inj {m n : Int} :
    m * grainsPerUnit = n * grainsPerUnit ↔ m = n := by
  obtain ⟨fine, -, hunit⟩ := exists_grainsPerUnit_eq
  rw [hunit]
  refine mul_left_inj' ?_
  exact_mod_cast (Nat.two_pow_pos fine).ne'

end Binary64

/-- What a moment is compared by: whether it has an offset, and the microseconds up to it. -/
def Moment.comparand (m : Moment) : Bool × Int :=
  (m.offset.isSome, m.shown - m.offset.getD 0 * 1000000)

/-- Two moments are equal exactly if they have the same to be compared by. -/
theorem Moment.eqv_iff {a b : Moment} : a.eqv b = true ↔ a.comparand = b.comparand := by
  unfold eqv comparand
  cases a.offset <;> cases b.offset <;> simp

namespace Value

/-- How large a number of whatever sort is, a truth value being one or zero. -/
def extent? : Value → Option Extent
  | .bool b => some (.grains ((if b then 1 else 0) * Binary64.grainsPerUnit))
  | .int n => some (.grains (n * Binary64.grainsPerUnit))
  | .float x => x.extent?
  | _ => none

/-- An integer equals what is as large. -/
theorem eqvInt_iff {n : Int} {v : Value} :
    eqvInt n v = true ↔ v.extent? = some (.grains (n * Binary64.grainsPerUnit)) := by
  have hsame : ∀ m : Int, (n == m) = true ↔
      some (Extent.grains (m * Binary64.grainsPerUnit)) =
        some (.grains (n * Binary64.grainsPerUnit)) := by
    intro m
    rw [beq_iff_eq, Option.some.injEq, Extent.grains.injEq, Binary64.mul_grainsPerUnit_inj, eq_comm]
  cases v with
  | bool b => exact hsame _
  | int m => exact hsame m
  | float x => exact Binary64.eqvInt_iff
  | _ => exact iff_of_false nofun nofun

/-- A floating-point number equals what is as large. -/
theorem eqvFloat_iff {x : Binary64} {v : Value} :
    eqvFloat x v = true ↔ ∃ e, x.extent? = some e ∧ v.extent? = some e := by
  have hsame : ∀ m : Int, x.eqvInt m = true ↔ ∃ e, x.extent? = some e ∧
      some (Extent.grains (m * Binary64.grainsPerUnit)) = some e := by
    intro m
    rw [Binary64.eqvInt_iff]
    simp [eq_comm]
  cases v with
  | bool b => exact hsame _
  | int m => exact hsame m
  | float y => exact Binary64.eqv_iff
  | _ => exact iff_of_false nofun nofun

/-! ## Case by case -/

/-- Two values **agree** if they are of the same sort and have the same to say: numbers their
extent, lists their items one by one, sets and dictionaries theirs in whatever order. -/
inductive Agree : Value → Value → Prop where
  | number {v w : Value} {e : Extent} (hv : v.extent? = some e) (hw : w.extent? = some e) :
      Agree v w
  | null : Agree .null .null
  | text {s : String} : Agree (.text s) (.text s)
  | list {xs ys : List Value} (h : List.Forall₂ (fun x y => x.eqv y = true) xs ys) :
      Agree (.list xs) (.list ys)
  | tuple {xs ys : List Value} (h : List.Forall₂ (fun x y => x.eqv y = true) xs ys) :
      Agree (.tuple xs) (.tuple ys)
  | set {xs ys : List Value} (hlength : xs.length = ys.length)
      (h : ∀ x ∈ xs, ∃ y ∈ ys, x.eqv y = true) : Agree (.set xs) (.set ys)
  | day {d : Day} : Agree (.day d) (.day d)
  | moment {a b : Moment} (h : a.eqv b = true) : Agree (.moment a) (.moment b)
  | dict {xs ys : List (Value × Value)} (hlength : xs.length = ys.length)
      (h : ∀ e ∈ xs, ∃ f ∈ ys, e.1.eqv f.1 = true ∧ e.2.eqv f.2 = true) :
      Agree (.dict xs) (.dict ys)
  | callable {f g : Callable Value} (h : f.key = g.key) : Agree (.callable f) (.callable g)
  | rule {t u : Callable Value} {message : String} (h : t.key = u.key) :
      Agree (.rule t message) (.rule u message)

/-- Lists are compared item by item. -/
theorem eqvAll_iff {xs ys : List Value} :
    eqvAll xs ys = true ↔ List.Forall₂ (fun x y => x.eqv y = true) xs ys := by
  induction xs generalizing ys with
  | nil => cases ys <;> simp [eqvAll]
  | cons x xs ih =>
    cases ys with
    | nil => simp [eqvAll]
    | cons y ys => simp [eqvAll, ih]

/-- The items of a set are looked for among those of another one. -/
theorem allAmong_iff {xs ys : List Value} :
    allAmong xs ys = true ↔ ∀ x ∈ xs, ∃ y ∈ ys, x.eqv y = true := by
  induction xs with
  | nil => simp [allAmong]
  | cons x xs ih => simp [allAmong, ih]

/-- So are the entries of a dictionary. -/
theorem entriesAmong_iff {xs ys : List (Value × Value)} : entriesAmong xs ys = true ↔
    ∀ e ∈ xs, ∃ f ∈ ys, e.1.eqv f.1 = true ∧ e.2.eqv f.2 = true := by
  induction xs with
  | nil => simp [entriesAmong]
  | cons e xs ih =>
    obtain ⟨k, v⟩ := e
    rw [entriesAmong, Bool.and_eq_true, ih, List.forall_mem_cons, List.any_eq_true]
    simp only [Bool.and_eq_true]

/-- **Values are equal** exactly if they agree. -/
theorem eqv_iff_agree {v w : Value} : v.eqv w = true ↔ v.Agree w := by
  constructor
  · intro h
    unfold eqv at h
    split at h
    · exact .null
    · exact .number rfl (eqvInt_iff.mp h)
    · exact .number rfl (eqvInt_iff.mp h)
    · obtain ⟨e, hx, hw⟩ := eqvFloat_iff.mp h
      exact .number hx hw
    · rw [eq_of_beq h]
      exact .text
    · exact .list (eqvAll_iff.mp h)
    · exact .tuple (eqvAll_iff.mp h)
    · rw [Bool.and_eq_true, beq_iff_eq] at h
      exact .set h.1 (allAmong_iff.mp h.2)
    · rw [eq_of_beq h]
      exact .day
    · exact .moment h
    · rw [Bool.and_eq_true, beq_iff_eq] at h
      exact .dict h.1 (entriesAmong_iff.mp h.2)
    · exact .callable (eq_of_beq h)
    · rw [Bool.and_eq_true, beq_iff_eq, beq_iff_eq] at h
      obtain ⟨hkey, rfl⟩ := h
      exact .rule hkey
    · cases h
  · intro h
    cases h with
    | number hv hw =>
      cases v with
      | bool b =>
        cases hv
        rw [eqv, eqvInt_iff, hw]
      | int n =>
        cases hv
        rw [eqv, eqvInt_iff, hw]
      | float x =>
        rw [eqv, eqvFloat_iff]
        exact ⟨_, hv, hw⟩
      | _ => cases hv
    | null => rw [eqv]
    | text => rw [eqv, beq_self_eq_true]
    | list h => rw [eqv, eqvAll_iff.mpr h]
    | tuple h => rw [eqv, eqvAll_iff.mpr h]
    | set hlength h => rw [eqv, hlength, beq_self_eq_true, allAmong_iff.mpr h, Bool.true_and]
    | day => rw [eqv, beq_self_eq_true]
    | moment h => rw [eqv, h]
    | dict hlength h =>
      rw [eqv, hlength, beq_self_eq_true, entriesAmong_iff.mpr h, Bool.true_and]
    | callable h => rw [eqv, h, beq_self_eq_true]
    | rule h => rw [eqv, h, beq_self_eq_true, beq_self_eq_true, Bool.true_and]

/-! ## Passing on and turning round -/

/-- The values that a value is directly made of. -/
def parts : Value → List Value
  | .list items | .tuple items | .set items => items
  | .dict entries => entries.flatMap fun e => [e.1, e.2]
  | _ => []

/-- A dictionary is made of the keys and the values of its entries. -/
theorem mem_parts_of_mem {entries : List (Value × Value)} {e : Value × Value} (he : e ∈ entries) :
    e.1 ∈ (Value.dict entries).parts ∧ e.2 ∈ (Value.dict entries).parts :=
  ⟨List.mem_flatMap.mpr ⟨e, he, by simp⟩, List.mem_flatMap.mpr ⟨e, he, by simp⟩⟩

/-- Nothing is in a set twice, and no key in a dictionary. -/
def Distinct : Value → Prop
  | .set items => items.Pairwise fun x y => ¬ x.eqv y = true
  | .dict entries => entries.Pairwise fun e f => ¬ e.1.eqv f.1 = true
  | _ => True

/-- A value is **proper** if nothing is twice in any set or dictionary of it, however deep. -/
inductive IsProper : Value → Prop where
  | intro {v : Value} (hdistinct : v.Distinct) (hparts : ∀ w ∈ v.parts, IsProper w) : IsProper v

/-- Values that agree are as large as each other if they are numbers, and both are if one is. -/
theorem Agree.extent?_eq {v w : Value} (h : v.Agree w) : v.extent? = w.extent? := by
  cases h with
  | number hv hw => rw [hv, hw]
  | _ => rfl

section Relation

variable {α β : Type} {R : α → α → Prop} {xs ys zs : List α}

/-- What passes on for the items of a list passes on for the list. -/
theorem forall₂_trans_of_mem (hR : ∀ x ∈ xs, ∀ y z, R x y → R y z → R x z)
    (h : List.Forall₂ R xs ys) (h' : List.Forall₂ R ys zs) : List.Forall₂ R xs zs := by
  induction h generalizing zs with
  | nil => exact h'
  | cons hxy _ ih =>
    obtain ⟨hfirst, hrest⟩ := List.forall_mem_cons.mp hR
    cases h' with
    | cons hyz h' => exact .cons (hfirst _ _ hxy hyz) (ih hrest h')

/-- What can be turned round for the items of a list can be turned round for the list. -/
theorem forall₂_symm_of_mem (hR : ∀ x ∈ xs, ∀ y, R x y → R y x) (h : List.Forall₂ R xs ys) :
    List.Forall₂ R ys xs := by
  induction h with
  | nil => exact .nil
  | cons hxy _ ih =>
    obtain ⟨hfirst, hrest⟩ := List.forall_mem_cons.mp hR
    exact .cons (hfirst _ hxy) (ih hrest)

/-- **If all find one and no two find the same, all are found**: as many are looked for as there
are. -/
theorem exists_of_found {R : α → β → Prop} {xs : List α} {ys : List β}
    (hlength : xs.length = ys.length) (hfind : ∀ x ∈ xs, ∃ y ∈ ys, R x y)
    (hapart : xs.Pairwise fun x x' => ∀ y, R x y → ¬ R x' y) : ∀ y ∈ ys, ∃ x ∈ xs, R x y := by
  have hplace : ∀ i : Fin xs.length, ∃ j : Fin ys.length, R xs[i] ys[j] := by
    intro i
    obtain ⟨y, hy, hR⟩ := hfind xs[i] (List.getElem_mem _)
    obtain ⟨j, hj, rfl⟩ := List.mem_iff_getElem.mp hy
    exact ⟨⟨j, hj⟩, hR⟩
  choose place hplace using hplace
  have hinjective : Function.Injective place := by
    intro i j hsame
    have hapart := List.pairwise_iff_getElem.mp hapart
    by_contra hne
    rcases lt_or_gt_of_ne hne with hlt | hlt
    · exact hapart i j i.2 j.2 hlt _ (hplace i) (hsame ▸ hplace j)
    · exact hapart j i j.2 i.2 hlt _ (hplace j) (hsame ▸ hplace i)
  have hsurjective := hinjective.surjective_of_finite (finCongr hlength)
  intro y hy
  obtain ⟨j, hj, rfl⟩ := List.mem_iff_getElem.mp hy
  obtain ⟨i, hi⟩ := hsurjective ⟨j, hj⟩
  refine ⟨xs[i], List.getElem_mem _, ?_⟩
  have := hplace i
  rw [hi] at this
  exact this

end Relation

/-- **Equality passes on.** -/
theorem IsProper.eqv_trans {v w u : Value} (hv : v.IsProper) (hvw : v.eqv w = true)
    (hwu : w.eqv u = true) : v.eqv u = true := by
  induction hv generalizing w u with
  | @intro v _ _ ih =>
    have ih : ∀ x ∈ v.parts, ∀ y z, x.eqv y = true → y.eqv z = true → x.eqv z = true :=
      fun x hx y z => ih x hx
    rw [eqv_iff_agree] at hvw hwu ⊢
    cases hvw with
    | number hv hw => exact .number hv (hwu.extent?_eq ▸ hw)
    | null => exact hwu
    | text => exact hwu
    | list h =>
      cases hwu with
      | number hw => cases hw
      | list h' => exact .list (forall₂_trans_of_mem ih h h')
    | tuple h =>
      cases hwu with
      | number hw => cases hw
      | tuple h' => exact .tuple (forall₂_trans_of_mem ih h h')
    | set hlength h =>
      cases hwu with
      | number hw => cases hw
      | set hlength' h' =>
        refine .set (hlength.trans hlength') fun x hx => ?_
        obtain ⟨y, hy, hxy⟩ := h x hx
        obtain ⟨z, hz, hyz⟩ := h' y hy
        exact ⟨z, hz, ih x hx y z hxy hyz⟩
    | day => exact hwu
    | moment h =>
      cases hwu with
      | number hw => cases hw
      | moment h' =>
        exact .moment (Moment.eqv_iff.mpr ((Moment.eqv_iff.mp h).trans (Moment.eqv_iff.mp h')))
    | dict hlength h =>
      cases hwu with
      | number hw => cases hw
      | dict hlength' h' =>
        refine .dict (hlength.trans hlength') fun e he => ?_
        obtain ⟨f, hf, hkey, hvalue⟩ := h e he
        obtain ⟨g, hg, hkey', hvalue'⟩ := h' f hf
        obtain ⟨hkeyPart, hvaluePart⟩ := mem_parts_of_mem he
        exact ⟨g, hg, ih _ hkeyPart _ _ hkey hkey', ih _ hvaluePart _ _ hvalue hvalue'⟩
    | callable h =>
      cases hwu with
      | number hw => cases hw
      | callable h' => exact .callable (h.trans h')
    | rule h =>
      cases hwu with
      | number hw => cases hw
      | rule h' => exact .rule (h.trans h')

/-- **Equality goes both ways.** -/
theorem IsProper.eqv_symm {v w : Value} (hv : v.IsProper) (h : v.eqv w = true) :
    w.eqv v = true := by
  induction hv generalizing w with
  | @intro v hdistinct hparts ih =>
    have ih : ∀ x ∈ v.parts, ∀ y, x.eqv y = true → y.eqv x = true := fun x hx y => ih x hx
    -- two values that find the same one are equal
    have happroach : ∀ x ∈ v.parts, ∀ x' ∈ v.parts, ∀ y, x.eqv y = true → x'.eqv y = true →
        x.eqv x' = true := fun x hx x' hx' y hxy hxy' =>
      (hparts x hx).eqv_trans hxy (ih x' hx' y hxy')
    rw [eqv_iff_agree] at h ⊢
    cases h with
    | number hv hw => exact .number hw hv
    | null => exact .null
    | text => exact .text
    | list h => exact .list (forall₂_symm_of_mem ih h)
    | tuple h => exact .tuple (forall₂_symm_of_mem ih h)
    | @set xs ys hlength h =>
      have hapart : xs.Pairwise fun x x' => ∀ y, x.eqv y = true → ¬ x'.eqv y = true :=
        hdistinct.imp_of_mem fun hx hx' hne y hxy hxy' => hne (happroach _ hx _ hx' y hxy hxy')
      refine .set hlength.symm fun y hy => ?_
      obtain ⟨x, hx, hxy⟩ := exists_of_found hlength h hapart y hy
      exact ⟨x, hx, ih x hx y hxy⟩
    | day => exact .day
    | moment h => exact .moment (Moment.eqv_iff.mpr (Moment.eqv_iff.mp h).symm)
    | @dict xs ys hlength h =>
      have hapart : xs.Pairwise fun e e' => ∀ f : Value × Value,
          e.1.eqv f.1 = true ∧ e.2.eqv f.2 = true →
            ¬ (e'.1.eqv f.1 = true ∧ e'.2.eqv f.2 = true) :=
        hdistinct.imp_of_mem fun he he' hne f hef hef' =>
          hne (happroach _ (mem_parts_of_mem he).1 _ (mem_parts_of_mem he').1 _ hef.1 hef'.1)
      refine .dict hlength.symm fun f hf => ?_
      obtain ⟨e, he, hkey, hvalue⟩ := exists_of_found hlength h hapart f hf
      obtain ⟨hkeyPart, hvaluePart⟩ := mem_parts_of_mem he
      exact ⟨e, he, ih _ hkeyPart _ hkey, ih _ hvaluePart _ hvalue⟩
    | callable h => exact .callable h.symm
    | rule h => exact .rule h.symm

/-- Between proper values it does not matter which is on the left. -/
theorem IsProper.eqv_comm {v w : Value} (hv : v.IsProper) (hw : w.IsProper) :
    v.eqv w = w.eqv v :=
  Bool.eq_iff_iff.mpr ⟨hv.eqv_symm, hw.eqv_symm⟩

/-! ## How proper values are made -/

/-- Of the items that are kept one by one none is there twice. -/
theorem pairwise_foldl_distinct {items kept : List Value} (hitems : ∀ x ∈ items, x.IsProper)
    (hkept : ∀ x ∈ kept, x.IsProper) (hapart : kept.Pairwise fun x y => ¬ x.eqv y = true) :
    (Value.set (items.foldl
      (fun kept x => if kept.any (eqv x) then kept else kept ++ [x]) kept)).IsProper := by
  induction items generalizing kept with
  | nil => exact .intro hapart hkept
  | cons x items ih =>
    obtain ⟨hx, hitems⟩ := List.forall_mem_cons.mp hitems
    rw [List.foldl_cons]
    by_cases hthere : kept.any (eqv x) = true
    · rw [if_pos hthere]
      exact ih hitems hkept hapart
    · rw [if_neg hthere]
      refine ih hitems ?_ ?_
      · intro y hy
        rcases List.mem_append.mp hy with hy | hy
        · exact hkept y hy
        · exact List.mem_singleton.mp hy ▸ hx
      · refine List.pairwise_append.mpr ⟨hapart, List.pairwise_singleton _ _, fun y hy z hz => ?_⟩
        rw [List.mem_singleton.mp hz]
        intro hsame
        exact hthere (List.any_eq_true.mpr ⟨y, hy, (hkept y hy).eqv_symm hsame⟩)

/-- A set of which each item is kept once is proper. -/
theorem isProper_set_distinct {items : List Value} (h : ∀ x ∈ items, x.IsProper) :
    (Value.set (distinct items)).IsProper :=
  pairwise_foldl_distinct h (by simp) .nil

/-- A dictionary is proper if its keys and values are and no key is there twice. -/
theorem isProper_dict_iff {entries : List (Value × Value)} : (Value.dict entries).IsProper ↔
    entries.Pairwise (fun e f => ¬ e.1.eqv f.1 = true) ∧
      ∀ e ∈ entries, e.1.IsProper ∧ e.2.IsProper := by
  constructor
  · intro h
    obtain ⟨hdistinct, hparts⟩ := h
    refine ⟨hdistinct, fun e he => ?_⟩
    exact ⟨hparts _ (mem_parts_of_mem he).1, hparts _ (mem_parts_of_mem he).2⟩
  · intro h
    refine .intro h.1 fun w hw => ?_
    obtain ⟨e, he, hwe⟩ := List.mem_flatMap.mp hw
    simp only [List.mem_cons, List.not_mem_nil, or_false] at hwe
    rcases hwe with rfl | rfl
    · exact (h.2 e he).1
    · exact (h.2 e he).2

/-- The entries with one key set have the old keys and that one, the old values and the new one. -/
theorem mem_setEntry {key value : Value} {entries : List (Value × Value)} {e : Value × Value}
    (he : e ∈ setEntry key value entries) :
    (e.1 = key ∨ ∃ f ∈ entries, e.1 = f.1) ∧ (e.2 = value ∨ ∃ f ∈ entries, e.2 = f.2) := by
  induction entries with
  | nil =>
    rw [setEntry, List.mem_singleton] at he
    exact ⟨.inl (he ▸ rfl), .inl (he ▸ rfl)⟩
  | cons f rest ih =>
    obtain ⟨k, v⟩ := f
    rw [setEntry] at he
    split at he
    · rcases List.mem_cons.mp he with rfl | he
      · exact ⟨.inr ⟨(k, v), by simp, rfl⟩, .inl rfl⟩
      · exact ⟨.inr ⟨e, by simp [he], rfl⟩, .inr ⟨e, by simp [he], rfl⟩⟩
    · rcases List.mem_cons.mp he with rfl | he
      · exact ⟨.inr ⟨(k, v), by simp, rfl⟩, .inr ⟨(k, v), by simp, rfl⟩⟩
      · obtain ⟨hkey, hvalue⟩ := ih he
        refine ⟨hkey.imp id ?_, hvalue.imp id ?_⟩
        · exact fun ⟨f, hf, hsame⟩ => ⟨f, by simp [hf], hsame⟩
        · exact fun ⟨f, hf, hsame⟩ => ⟨f, by simp [hf], hsame⟩

/-- A proper dictionary stays proper when one of its keys is set. -/
theorem isProper_dict_setEntry {key value : Value} (hkey : key.IsProper) (hvalue : value.IsProper)
    {entries : List (Value × Value)} (h : (Value.dict entries).IsProper) :
    (Value.dict (setEntry key value entries)).IsProper := by
  rw [isProper_dict_iff] at h ⊢
  obtain ⟨hdistinct, hparts⟩ := h
  refine ⟨?_, fun e he => ?_⟩
  · clear hparts
    induction entries with
    | nil => exact List.pairwise_singleton _ _
    | cons f rest ih =>
      obtain ⟨k, v⟩ := f
      obtain ⟨hfirst, hrest⟩ := List.pairwise_cons.mp hdistinct
      rw [setEntry]
      split
      · exact List.pairwise_cons.mpr ⟨hfirst, hrest⟩
      · rename_i hnew
        refine List.pairwise_cons.mpr ⟨fun e he => ?_, ih hrest⟩
        rcases (mem_setEntry he).1 with hsame | ⟨f, hf, hsame⟩
        · rw [hsame]
          exact hnew
        · rw [hsame]
          exact hfirst f hf
  · obtain ⟨hfirst, hsecond⟩ := mem_setEntry he
    constructor
    · rcases hfirst with hsame | ⟨f, hf, hsame⟩
      · rwa [hsame]
      · exact hsame ▸ (hparts f hf).1
    · rcases hsecond with hsame | ⟨f, hf, hsame⟩
      · rwa [hsame]
      · exact hsame ▸ (hparts f hf).2

end Value

end Intake
