import Intake.Proofs.Form.HiddenFields
import Intake.Proofs.Form.Invariant

/-!
# What becomes of the entry in a field with a condition

While answers are brought into agreement, a field is settled once in every pass, each time at the
answers as they are at that moment.  If it is hidden then, its entry is gone, and does not come
back if the field turns out to be visible: what it gets then is its fallback, as if nothing had been
entered.  So what a visible field holds at the end does not hang on the other answers at the end
alone, but also on whether it was hidden at some moment.

* `IsSettledAt` and `IsSettledDuring` are about the moments at which a field is settled;
* `Field.filled?` is what a visible field makes of a value;
* `Field.comesOf_of_settle` says what one step makes of the entry, and
  `Field.comesOf_of_settlePasses` what some passes make of it;
* `Field.filled?_get_of_sanitize` is the conclusion for sanitized answers.
-/

namespace Intake

/-! ## Moments -/

/-- While some fields are settled in turn, one of them is settled at certain answers. -/
inductive IsSettledAt (host : Host) (d : Field) (moment : Answers) :
    List Field → Answers → Prop where
  | now {rest : List Field} : IsSettledAt host d moment (d :: rest) moment
  | later {e : Field} {rest : List Field} {a b : Answers} {changed : Bool}
      (hstep : e.settle host a = .ok (b, changed)) (h : IsSettledAt host d moment rest b) :
      IsSettledAt host d moment (e :: rest) a

/-- While fields are settled until nothing changes, in some number of passes at most, one of them is
settled at certain answers. -/
inductive IsSettledDuring (host : Host) (fields : List Field) (d : Field) (moment : Answers) :
    Nat → Answers → Prop where
  | first {passes : Nat} {a : Answers} (h : IsSettledAt host d moment fields a) :
      IsSettledDuring host fields d moment (passes + 1) a
  | later {passes : Nat} {a b : Answers} (hpass : settlePass host a fields = .ok (b, true))
      (h : IsSettledDuring host fields d moment passes b) :
      IsSettledDuring host fields d moment (passes + 1) a

/-- A field is **emptied** if it is hidden at some moment at which it is settled while raw answers
are sanitized. -/
def Field.IsEmptied (host : Host) (fields : List Field) (raw : Answers) (d : Field) : Prop :=
  ∃ cleaned moment, cleanAll host raw fields = .ok cleaned ∧
    IsSettledDuring host fields d moment (fields.length + 1) cleaned ∧
    d.isShown host moment = false

/-- What a visible field makes of a value: its fallback if the value is unset, unless the two are
the same. -/
def Field.filled? (host : Host) (d : Field) (v : Value) : Except Fault Value :=
  if d.hasFallback && d.isUnset v then
    (d.clean? host d.fallback).map fun w => if w.sameAs v then v else w
  else .ok v

section Moments

variable {host : Host} {fields : List Field} {d : Field} {a b : Answers}

/-- Only the fields that are gone through are settled. -/
theorem IsSettledAt.mem {todo : List Field} {moment : Answers}
    (h : IsSettledAt host d moment todo a) : d ∈ todo := by
  induction h with
  | now => exact List.mem_cons_self
  | later _ _ ih => exact List.mem_cons_of_mem _ ih

/-- Only the fields of the form are settled in the course of passes. -/
theorem IsSettledDuring.mem {passes : Nat} {moment : Answers}
    (h : IsSettledDuring host fields d moment passes a) : d ∈ fields := by
  induction h with
  | first h => exact h.mem
  | later _ _ ih => exact ih

/-- A first field is settled at once, and any other while the rest is gone through. -/
theorem isSettledAt_cons_iff {e : Field} {rest : List Field} {moment between : Answers}
    {changed : Bool} (hstep : e.settle host a = .ok (between, changed)) :
    IsSettledAt host d moment (e :: rest) a ↔
      (e = d ∧ moment = a) ∨ IsSettledAt host d moment rest between := by
  constructor
  · intro h
    cases h with
    | now => exact .inl ⟨rfl, rfl⟩
    | later hstep' h =>
      cases hstep.symm.trans hstep'
      exact .inr h
  · rintro (⟨rfl, rfl⟩ | h)
    · exact .now
    · exact .later hstep h

/-- A field is settled in the first pass, and in further ones if that has changed something. -/
theorem isSettledDuring_succ_iff {passes : Nat} {moment between : Answers} {changed : Bool}
    (hpass : settlePass host a fields = .ok (between, changed)) :
    IsSettledDuring host fields d moment (passes + 1) a ↔
      IsSettledAt host d moment fields a ∨
        (changed = true ∧ IsSettledDuring host fields d moment passes between) := by
  constructor
  · intro h
    cases h with
    | first h => exact .inl h
    | later hpass' h =>
      cases hpass.symm.trans hpass'
      exact .inr ⟨rfl, h⟩
  · rintro (h | ⟨rfl, h⟩)
    · exact .first h
    · exact .later hpass h

end Moments

/-! ## What a visible field makes of its entry -/

namespace Field

variable {host : Host} {fields : List Field} {d : Field} {a b : Answers}

/-- What a field has been filled with is not filled again. -/
theorem filled?_of_filled? {v w : Value} (h : d.filled? host v = .ok w) :
    d.filled? host w = .ok w := by
  unfold filled? at h
  split at h
  · rename_i hlacks
    obtain ⟨f, hf, rfl⟩ := exists_of_map_eq_ok h
    cases hsame : f.sameAs v with
    | true => simp only [if_true, filled?, hlacks, hf, Except.map, hsame]
    | false =>
      simp only [Bool.false_eq_true, if_false, filled?, hf, Except.map]
      cases hunset : d.hasFallback && d.isUnset f with
      | false => rfl
      | true =>
        have hself := sameAs_self_of_isUnset (Bool.and_eq_true_iff.mp hunset).2
        simp only [if_true, hself]
  · rename_i hfull
    cases h
    rw [filled?, if_neg hfull]

/-- **What settling does to a field with a condition** that is not derived: it empties a hidden
field, and fills a visible one. -/
theorem get_of_settle_of_condition (hcond : d.condition.isSome = true)
    (hderivation : d.derivation = none) {changed : Bool}
    (h : d.settle host a = .ok (b, changed)) :
    (d.isShown host a = false → b.get d.name = d.type.emptyValue) ∧
      (d.isShown host a = true → d.filled? host (a.get d.name) = .ok (b.get d.name)) := by
  obtain ⟨o, ho, hb⟩ := get_of_settle h
  cases settled?_eq_ok_iff.mp ho with
  | counted hsome => cases hderivation.symm.trans hsome
  | hidden _ _ hhidden =>
    refine ⟨fun _ => ?_, fun hshown => (nomatch (isShown_of_eq_ok hhidden).symm.trans hshown)⟩
    rw [hb, Option.filter_some]
    cases hsame : d.type.emptyValue.sameAs (a.get d.name) with
    | true => exact ((d.type.isExact_emptyValue.left _).mp hsame).symm
    | false => rfl
  | @filled w _ _ hshown hlacks hclean =>
    refine ⟨fun hhidden => (nomatch hhidden.symm.trans (isShown_of_eq_ok hshown)), fun _ => ?_⟩
    rw [hb, Option.filter_some, filled?, hlacks, hclean]
    cases hsame : w.sameAs (a.get d.name) <;> simp [Except.map, hsame]
  | left _ hshown hfull =>
    refine ⟨fun hhidden => (nomatch hhidden.symm.trans (isShown_of_eq_ok hshown)), fun _ => ?_⟩
    rw [hb, filled?, hfull hcond]
    rfl

/-- A field **follows from** a value if it holds this value, or what a visible field makes of it. -/
def FollowsFrom (host : Host) (d : Field) (base v : Value) : Prop :=
  v = base ∨ d.filled? host base = .ok v

/-- What follows from a value still follows from it when it has been filled. -/
theorem FollowsFrom.filled? {base v w : Value} (h : d.FollowsFrom host base v)
    (hw : d.filled? host v = .ok w) : d.FollowsFrom host base w := by
  rcases h with rfl | hv
  · exact .inr hw
  · cases hw.symm.trans (filled?_of_filled? hv)
    exact .inr hv

/-- What follows from a value and is not filled again is what a visible field makes of it. -/
theorem FollowsFrom.eq_filled? {base v : Value} (h : d.FollowsFrom host base v)
    (hv : d.filled? host v = .ok v) : d.filled? host base = .ok v := by
  rcases h with rfl | hbase
  · exact hv
  · exact hbase

/-- What a field holds **comes of** a value over some moments at which it may have been settled: if
it was hidden at one of them it follows from the empty value, and otherwise from the value. -/
inductive ComesOf (host : Host) (d : Field) (moments : Answers → Prop) (base v : Value) : Prop where
  | emptied (moment : Answers) (hmoment : moments moment) (hhidden : d.isShown host moment = false)
      (hend : d.FollowsFrom host d.type.emptyValue v) : ComesOf host d moments base v
  | kept (hall : ∀ moment, moments moment → d.isShown host moment = true)
      (hend : d.FollowsFrom host base v) : ComesOf host d moments base v

/-- Moments in which nothing happens to the field change nothing. -/
theorem FollowsFrom.comesOf {moments : Answers → Prop} {base v : Value}
    (h : d.FollowsFrom host base v) (hnone : ∀ moment, ¬ moments moment) :
    d.ComesOf host moments base v :=
  .kept (fun moment hmoment => absurd hmoment (hnone moment)) h

/-- Over moments of which some come first: once the entry is gone it does not come back. -/
theorem ComesOf.trans {first later all : Answers → Prop} {base v w : Value}
    (h : d.ComesOf host first base v)
    (hlater : ∀ base, d.FollowsFrom host base v → d.ComesOf host later base w)
    (hall : ∀ moment, all moment ↔ first moment ∨ later moment) : d.ComesOf host all base w := by
  cases h with
  | emptied moment hmoment hhidden hend =>
    refine .emptied moment ((hall moment).mpr (.inl hmoment)) hhidden ?_
    cases hlater _ hend with
    | emptied _ _ _ hend => exact hend
    | kept _ hend => exact hend
  | kept hshown hend =>
    cases hlater _ hend with
    | emptied moment hmoment hhidden hend =>
      exact .emptied moment ((hall moment).mpr (.inr hmoment)) hhidden hend
    | kept hshown' hend =>
      refine .kept (fun moment hmoment => ?_) hend
      exact ((hall moment).mp hmoment).elim (hshown moment) (hshown' moment)

/-- **What a step makes of an entry.**  Only the step that settles the field itself does
something. -/
theorem comesOf_of_settle (hcond : d.condition.isSome = true) (hderivation : d.derivation = none)
    {e : Field} {changed : Bool} {base : Value} (hsame : e.name = d.name → e = d)
    (hbase : d.FollowsFrom host base (a.get d.name)) (h : e.settle host a = .ok (b, changed)) :
    d.ComesOf host (fun moment => e = d ∧ moment = a) base (b.get d.name) := by
  by_cases hname : e.name = d.name
  · obtain rfl := hsame hname
    obtain ⟨hemptied, hfilled⟩ := get_of_settle_of_condition hcond hderivation h
    cases hshown : e.isShown host a with
    | false => exact .emptied a ⟨rfl, rfl⟩ hshown (.inl (hemptied hshown))
    | true =>
      refine .kept ?_ (hbase.filled? (hfilled hshown))
      rintro moment ⟨-, rfl⟩
      exact hshown
  · rw [← settle_get_of_ne h (Ne.symm hname)] at hbase
    exact hbase.comesOf fun moment hmoment => hname (hmoment.1 ▸ rfl)

/-- **What a pass makes of an entry.** -/
theorem comesOf_of_settlePass (hcond : d.condition.isSome = true)
    (hderivation : d.derivation = none) {todo : List Field} {changed : Bool} {base : Value}
    (hsame : ∀ e ∈ todo, e.name = d.name → e = d) (hbase : d.FollowsFrom host base (a.get d.name))
    (h : settlePass host a todo = .ok (b, changed)) :
    d.ComesOf host (IsSettledAt host d · todo a) base (b.get d.name) := by
  induction todo generalizing a changed base with
  | nil =>
    cases h
    exact hbase.comesOf nofun
  | cons e rest ih =>
    obtain ⟨between, first, later, hfirst, hlater, -⟩ := settlePass_cons h
    obtain ⟨he, hrest⟩ := List.forall_mem_cons.mp hsame
    exact (comesOf_of_settle hcond hderivation he hbase hfirst).trans
      (fun _ hbetween => ih hrest hbetween hlater) fun _ => isSettledAt_cons_iff hfirst

/-- **What passes make of an entry**: as for one pass, with the moments of all of them. -/
theorem comesOf_of_settlePasses (hcond : d.condition.isSome = true)
    (hderivation : d.derivation = none) {passes : Nat} {base : Value}
    (hsame : ∀ e ∈ fields, e.name = d.name → e = d)
    (hbase : d.FollowsFrom host base (a.get d.name))
    (h : settlePasses host fields passes a = .ok b) :
    d.ComesOf host (IsSettledDuring host fields d · passes a) base (b.get d.name) := by
  induction passes generalizing a base with
  | zero =>
    cases h
    exact hbase.comesOf nofun
  | succ passes ih =>
    rw [settlePasses] at h
    obtain ⟨⟨between, changed⟩, hpass, h⟩ := exists_of_bind_eq_ok h
    refine (comesOf_of_settlePass hcond hderivation hsame hbase hpass).trans
      (fun base hbetween => ?_) fun _ => isSettledDuring_succ_iff hpass
    cases changed with
    | false =>
      cases h
      exact hbetween.comesOf fun moment hmoment => absurd hmoment.1 Bool.false_ne_true
    | true => simpa using ih hbetween h

/-- **What a visible field holds** once answers have been sanitized, if it has a condition, is not
derived and is at rest: what it makes of the empty value if it has been emptied, and otherwise what
it makes of what was entered. -/
theorem filled?_get_of_sanitize (hnames : (fieldNames fields).Nodup) (hd : d ∈ fields)
    (hcond : d.condition.isSome = true) (hderivation : d.derivation = none) {raw s : Answers}
    (h : sanitize host fields raw = .ok s) (hrest : d.AtRest host s)
    (hshown : d.isShown host s = true) :
    ∃ w, d.clean? host (raw.get d.name) = .ok w ∧
      ((d.IsEmptied host fields raw ∧ d.filled? host d.type.emptyValue = .ok (s.get d.name)) ∨
        (¬ d.IsEmptied host fields raw ∧ d.filled? host w = .ok (s.get d.name))) := by
  obtain ⟨cleaned, hcleaned, hreconcile⟩ := reconcile_of_sanitize h
  have hclean : d.clean? host (raw.get d.name) = .ok (cleaned.get d.name) :=
    (meets_clean?_of_cleanAll hnames hcleaned).each d hd
  have hstill : d.filled? host (s.get d.name) = .ok (s.get d.name) :=
    (get_of_settle_of_condition hcond hderivation (atRest_iff_settle.mp hrest)).2 hshown
  have hsame : ∀ e ∈ fields, e.name = d.name → e = d :=
    fun e he hname => List.inj_on_of_nodup_map hnames he hd hname
  refine ⟨_, hclean, ?_⟩
  cases comesOf_of_settlePasses hcond hderivation hsame (.inl rfl) hreconcile with
  | emptied moment hmoment hhidden hend =>
    exact .inl ⟨⟨cleaned, moment, hcleaned, hmoment, hhidden⟩, hend.eq_filled? hstill⟩
  | kept hall hend =>
    refine .inr ⟨?_, hend.eq_filled? hstill⟩
    rintro ⟨cleaned', moment, hcleaned', hmoment, hhidden⟩
    cases hcleaned.symm.trans hcleaned'
    exact nomatch hhidden.symm.trans (hall moment hmoment)

end Field

end Intake
