import Intake.Proofs.Schema.Cache
import Intake.Proofs.Schema.Findings
import Intake.Proofs.Value.LongInteger

/-!
# When checking ends with an answer

A rule measures a value: the characters of a text, the amount of a number, the items of a list.
The check of a sort of field and the rules for it go by two tables, and what holds them together is
that whatever the check accepts can be measured by all rules for the sort: `Rule.Suits`.  So no rule
is ever tried on a value that it cannot measure, whatever answers come in.

The wording of a message writes the bound out.  An integer can have too many digits for that; but
then the fields have no fingerprint either, and there is no schema.

What is left to fail are the functions of the host.  A fault of theirs is passed over if it has a
wording, and otherwise goes on; and so does the one in asking a form's own rule for yes or no.

* `Rule.IsOf` says where the rules of a field come from, `Constraints.suits_of_accepts` that they
  suit what the check accepts;
* `FieldCheck.runBy?_eq` says that it does not matter what rules do with other values;
* `exists_message?_of_payload?` says that the fields of a schema have all their messages;
* `Field.Jams` says when a function of the host is in the way, and `Field.run?_failsAs` that nothing
  else is;
* `check_fails_iff` is the conclusion, and `check_listedRemark` shows a fault that goes on.
-/

namespace Intake

/-! ## Rules and what they measure -/

/-- A rule suits a value if the value can be measured by it. -/
def Rule.Suits (v : Value) : Rule → Prop
  | .minLength _ | .maxLength _ | .pattern .. => ∃ s, v = .text s
  | .minValue _ | .maxValue _ => ∃ x, v.amount? = some x
  | .minItems _ | .maxItems _ => ∃ items, v.sequence? = some items
  | .own _ => True

/-- The rules that constraints give to a sort of field. -/
inductive Rule.IsOf (c : Constraints) (type : FieldType) : Rule → Prop where
  | minLength {n : Int} (htype : type.isTextLike = true) (h : c.minLength = some n) :
      IsOf c type (.minLength n)
  | maxLength {n : Int} (htype : type.isTextLike = true) (h : c.maxLength = some n) :
      IsOf c type (.maxLength n)
  | pattern {p : TextPattern} (htype : type.isTextLike = true) (h : c.pattern = some p) :
      IsOf c type (.pattern p c.patternMessage)
  | minValue {b : Bound} (htype : type = .number) (h : c.minValue = some b) :
      IsOf c type (.minValue b)
  | maxValue {b : Bound} (htype : type = .number) (h : c.maxValue = some b) :
      IsOf c type (.maxValue b)
  | minItems {n : Int} (htype : type.isListLike = true) (h : c.minItems.or c.minLength = some n) :
      IsOf c type (.minItems n)
  | maxItems {n : Int} (htype : type.isListLike = true) (h : c.maxItems.or c.maxLength = some n) :
      IsOf c type (.maxItems n)
  | own {r : OwnRule} (h : c.own = some r) : IsOf c type (.own r)

/-- There are no other rules. -/
theorem Constraints.isOf_of_mem_rules {c : Constraints} {type : FieldType} {r : Rule}
    (h : r ∈ c.rules type) : r.IsOf c type := by
  have hoption : ∀ {α : Type} {o : Option α} {f : α → Rule},
      r ∈ o.toList.map f → ∃ a, o = some a ∧ f a = r := by
    intro α o f hr
    obtain ⟨a, ha, rfl⟩ := List.mem_map.mp hr
    exact ⟨a, Option.mem_toList.mp ha, rfl⟩
  rcases List.mem_append.mp h with hbase | hown
  · by_cases hnumber : type = .number
    · rw [if_pos hnumber] at hbase
      rcases List.mem_append.mp hbase with hmin | hmax
      · obtain ⟨b, hb, rfl⟩ := hoption hmin
        exact .minValue hnumber hb
      · obtain ⟨b, hb, rfl⟩ := hoption hmax
        exact .maxValue hnumber hb
    rw [if_neg hnumber] at hbase
    by_cases hlist : type.isListLike = true
    · rw [if_pos hlist] at hbase
      rcases List.mem_append.mp hbase with hmin | hmax
      · obtain ⟨n, hn, rfl⟩ := hoption hmin
        exact .minItems hlist hn
      · obtain ⟨n, hn, rfl⟩ := hoption hmax
        exact .maxItems hlist hn
    rw [if_neg hlist] at hbase
    by_cases htext : type.isTextLike = true
    · rw [if_pos htext] at hbase
      rcases List.mem_append.mp hbase with hlength | hpattern
      · rcases List.mem_append.mp hlength with hmin | hmax
        · obtain ⟨n, hn, rfl⟩ := hoption hmin
          exact .minLength htext hn
        · obtain ⟨n, hn, rfl⟩ := hoption hmax
          exact .maxLength htext hn
      · obtain ⟨p, hp, rfl⟩ := hoption hpattern
        exact .pattern htext hp
    · rw [if_neg htext] at hbase
      cases hbase
  · obtain ⟨r, hr, rfl⟩ := hoption hown
    exact .own hr

namespace FieldType

variable {type : FieldType} {v : Value}

/-- A field for texts accepts only texts. -/
theorem exists_text_of_accepts (htype : type.isTextLike = true) (h : type.accepts v = true) :
    ∃ s, v = .text s := by
  cases v with
  | text s => exact ⟨s, rfl⟩
  | _ => cases type <;> simp_all [isTextLike, accepts]

/-- A field for lists accepts only lists and tuples. -/
theorem exists_sequence?_of_accepts (htype : type.isListLike = true)
    (h : type.accepts v = true) : ∃ items, v.sequence? = some items := by
  have hlist : v.isTextList = true := by
    cases type <;> simp_all [isListLike, accepts]
  unfold Value.isTextList at hlist
  cases hitems : v.sequence? with
  | some items => exact ⟨items, rfl⟩
  | none =>
    rw [hitems] at hlist
    cases hlist

end FieldType

/-- **What the check of a sort accepts suits the rules for the sort.** -/
theorem Constraints.suits_of_accepts {c : Constraints} {type : FieldType} {v : Value} {r : Rule}
    (h : type.accepts v = true) (hr : r ∈ c.rules type) : r.Suits v := by
  cases Constraints.isOf_of_mem_rules hr with
  | minLength htype | maxLength htype | pattern htype =>
    exact FieldType.exists_text_of_accepts htype h
  | minValue htype | maxValue htype =>
    subst htype
    exact Option.isSome_iff_exists.mp h
  | minItems htype | maxItems htype => exact FieldType.exists_sequence?_of_accepts htype h
  | own => trivial

/-! ## What rules do with values that they do not suit -/

/-- What the first rule says that a value breaks, where rules are applied in a way of one's own. -/
def firstBrokenBy? (apply : Rule → Except Fault (Option String)) :
    List Rule → Except Fault (Option String)
  | [] => .ok none
  | r :: rest => do
    match ← apply r with
    | some message => return some message
    | none => firstBrokenBy? apply rest

/-- The first thing wrong with a value of the field, where rules are applied in a way of one's
own. -/
def FieldCheck.runBy? (host : Host) (answers : Answers)
    (apply : Rule → Value → Except Fault (Option String)) (value : Value) (c : FieldCheck) :
    Except Fault (Option String) := do
  if !(← c.field.isShown? host answers) then return none
  else if value.isEmpty then demand? host answers c.field
  else if !c.field.type.accepts value then return some c.field.type.refusal
  else firstBrokenBy? (apply · value) c.rules

section Apply

variable {host : Host} {answers : Answers} {value : Value}

/-- Rules that are applied to the value as they are checked are tried as they are checked. -/
theorem firstBrokenBy?_eq {apply : Rule → Except Fault (Option String)} {rules : List Rule}
    (h : ∀ r ∈ rules, apply r = r.check? host value answers) :
    firstBrokenBy? apply rules = firstBroken? host value answers rules := by
  induction rules with
  | nil => rfl
  | cons r rest ih =>
    obtain ⟨hfirst, hrest⟩ := List.forall_mem_cons.mp h
    rw [firstBrokenBy?, firstBroken?, hfirst]
    cases r.check? host value answers with
    | error fault => rfl
    | ok verdict =>
      cases verdict with
      | none => exact ih hrest
      | some message => rfl

/-- **No rule is applied to a value that it does not suit.**  Whatever such an application came
to, a fault included, the check of a field would come out as it does. -/
theorem FieldCheck.runBy?_eq {apply : Rule → Value → Except Fault (Option String)} {d : Field}
    (h : ∀ r v, r.Suits v → apply r v = r.check? host v answers) :
    d.check.runBy? host answers apply value = d.check.run? host value answers := by
  unfold FieldCheck.runBy? FieldCheck.run?
  cases haccepts : d.check.field.type.accepts value with
  | false => rfl
  | true =>
    have hrules : firstBrokenBy? (apply · value) d.check.rules =
        firstBroken? host value answers d.check.rules :=
      firstBrokenBy?_eq fun r hr => h r value (Constraints.suits_of_accepts haccepts hr)
    rw [hrules]

end Apply

/-! ## Messages -/

/-- An integer with fewer bits than digits are allowed is written. -/
theorem Value.exists_intText? {n : Int} (h : n.natAbs < 2 ^ digitLimit) :
    ∃ t, intText? n = .ok t := by
  have hdigits : n.natAbs < 10 ^ digitLimit :=
    h.trans_le (Nat.pow_le_pow_left (by decide) digitLimit)
  exact (intText?_failsIff n).returns hdigits.not_ge

/-- The integer that a floating-point number equals has no more than 1024 bits. -/
theorem Binary64.natAbs_lt_of_toInt? {x : Binary64} {n : Int} {bits : Nat}
    (h : x.toInt? = some n) (hbits : 1024 ≤ bits) : n.natAbs < 2 ^ bits := by
  cases x with
  | nan => cases h
  | infinite => cases h
  | finite negative m p normal =>
    obtain ⟨hm, hp, -⟩ := isSignificand_iff.mp normal
    have hgrains : m <<< p / grainsPerUnit < 2 ^ bits := by
      rw [grainsPerUnit_eq, Nat.shiftLeft_eq, Nat.div_lt_iff_lt_mul (Nat.two_pow_pos _),
        ← Nat.pow_add 2 bits 1074]
      calc m * 2 ^ p < 2 ^ (53 + p) := (mul_two_pow_lt_iff p).mpr hm
        _ ≤ 2 ^ (bits + 1074) := Nat.pow_le_pow_right (by decide) (by omega)
    by_cases hwhole : (m <<< p) % grainsPerUnit = 0
    · rw [toInt?, if_pos hwhole] at h
      obtain rfl := Option.some.inj h
      cases negative with
      | false => exact hgrains
      | true => exact (Int.natAbs_neg _).trans_lt hgrains
    · rw [toInt?, if_neg hwhole] at h
      cases h

/-- A bound that has a text as a value is written out in messages. -/
theorem Wording.exists_trimmed? {b : Bound} {t : String} (h : b.toValue.canonical? = .ok t) :
    ∃ t, trimmed? b = .ok t := by
  cases b with
  | int n => exact ⟨t, h⟩
  | float x =>
    unfold trimmed?
    cases hx : x.toInt? with
    | none =>
      simp only [hx]
      exact ⟨_, rfl⟩
    | some n =>
      simp only [hx]
      exact Value.exists_intText? (Binary64.natAbs_lt_of_toInt? hx (by decide))

/-- Where a record has a text every entry of it has one. -/
theorem Value.exists_canonical?_of_record {entries : List (String × Value)} {t : String}
    (h : (record entries).canonical? = .ok t) {key : String} {v : Value}
    (hentry : (key, v) ∈ entries) : ∃ part, v.canonical? = .ok part := by
  rw [record, canonical?] at h
  obtain ⟨texts, htexts, -⟩ := exists_of_map_eq_ok h
  obtain ⟨⟨_, part⟩, -, -, hpart⟩ := exists_of_mem_forall₂ (forall₂_of_record htexts) hentry
  exact ⟨part, hpart⟩

/-- Where constraints have a text every bound in them has one. -/
theorem Constraints.exists_canonical?_bound {c : Constraints} {t : String}
    (ht : c.toValue.canonical? = .ok t) :
    (∀ n, some n ∈ [c.minLength, c.maxLength, c.minItems, c.maxItems] →
      ∃ part, Value.intText? n = .ok part) ∧
    ∀ b, some b ∈ [c.minValue, c.maxValue] → ∃ part, b.toValue.canonical? = .ok part := by
  obtain ⟨minLength, maxLength, minValue, maxValue, pattern, minItems, maxItems, own, message⟩ := c
  have hpart : ∀ {key : String} {v : Value}, (key, v) ∈ _ → ∃ part, v.canonical? = .ok part :=
    fun hentry => Value.exists_canonical?_of_record ht hentry
  simp only [List.mem_cons, List.not_mem_nil, or_false]
  constructor
  · rintro n (rfl | rfl | rfl | rfl)
    · exact hpart (.head _)
    · exact hpart (.tail _ (.head _))
    · exact hpart (.tail _ (.tail _ (.tail _ (.tail _ (.tail _ (.head _))))))
    · exact hpart (.tail _ (.tail _ (.tail _ (.tail _ (.tail _ (.tail _ (.head _)))))))
  · rintro b (rfl | rfl)
    · exact hpart (.tail _ (.tail _ (.head _)))
    · exact hpart (.tail _ (.tail _ (.tail _ (.head _))))

/-- The message of a rule is written if the constraints that give it have a text. -/
theorem Rule.IsOf.exists_message? {c : Constraints} {type : FieldType} {r : Rule}
    (h : r.IsOf c type) {t : String} (ht : c.toValue.canonical? = .ok t) :
    ∃ message, r.message? = .ok message := by
  obtain ⟨hints, hbounds⟩ := Constraints.exists_canonical?_bound ht
  have hint : ∀ {n : Int} (say : String → String),
      some n ∈ [c.minLength, c.maxLength, c.minItems, c.maxItems] →
      ∃ message, (Bound.int n).text?.map say = .ok message := by
    intro n say hn
    obtain ⟨part, hpart⟩ := hints n hn
    exact ⟨say part, congrArg (Except.map say) hpart⟩
  have hvalue : ∀ {b : Bound} (say : String → String), some b ∈ [c.minValue, c.maxValue] →
      ∃ message, (Wording.trimmed? b).map say = .ok message := by
    intro b say hb
    obtain ⟨part, hpart⟩ := hbounds b hb
    obtain ⟨text, htext⟩ := Wording.exists_trimmed? hpart
    exact ⟨say text, congrArg (Except.map say) htext⟩
  cases h with
  | minLength _ hn => exact hint _ (by simp [hn])
  | maxLength _ hn => exact hint _ (by simp [hn])
  | pattern => exact ⟨_, rfl⟩
  | minValue _ hb => exact hvalue _ (by simp [hb])
  | maxValue _ hb => exact hvalue _ (by simp [hb])
  | minItems _ hn =>
    rcases Option.or_eq_some_iff.mp hn with hn | ⟨-, hn⟩
    · exact hint _ (by simp [hn])
    · exact hint _ (by simp [hn])
  | maxItems _ hn =>
    rcases Option.or_eq_some_iff.mp hn with hn | ⟨-, hn⟩
    · exact hint _ (by simp [hn])
    · exact hint _ (by simp [hn])
  | own => exact ⟨_, rfl⟩

/-- **Fields that have a text have all their messages.** -/
theorem exists_message?_of_payload? {fields : List Field} {t : String}
    (ht : payload? fields = .ok t) {d : Field} (hd : d ∈ fields) {r : Rule} (hr : r ∈ d.rules) :
    ∃ message, r.message? = .ok message := by
  obtain ⟨parts, hparts, -⟩ := exists_of_map_eq_ok ht
  obtain ⟨_, -, hfield⟩ := exists_of_mem_forall₂ (Value.forall₂_of_canonicalAll? hparts)
    (List.mem_map_of_mem hd)
  obtain ⟨_, hconstraints⟩ := Value.exists_canonical?_of_record hfield
    (.tail _ (.tail _ (.tail _ (.tail _ (.head _)))))
  exact (Constraints.isOf_of_mem_rules hr).exists_message? hconstraints

/-! ## Rules that are tried -/

section Tried

variable {host : Host} {answers : Answers} {value : Value} {d : Field}

/-- Of a rule that is obeyed nothing is said. -/
theorem Rule.check?_of_obeyed {r : Rule} (h : r.obeyed host value answers = true) :
    r.check? host value answers = .ok none := by
  rw [check?, eq_ok_of_saidYes h]
  rfl

/-- No rule says anything exactly if all are obeyed. -/
theorem firstBroken?_eq_none_iff {rules : List Rule} :
    firstBroken? host value answers rules = .ok none ↔
      ∀ r ∈ rules, r.obeyed host value answers = true := by
  induction rules with
  | nil => simp [firstBroken?]
  | cons r rest ih =>
    rw [List.forall_mem_cons]
    cases hobeyed : r.obeyed host value answers with
    | true =>
      rw [firstBroken?, Rule.check?_of_obeyed hobeyed]
      show firstBroken? host value answers rest = .ok none ↔ _
      simp [ih]
    | false =>
      refine iff_of_false ?_ (by simp)
      rw [firstBroken?, Rule.check?]
      unfold Rule.obeyed at hobeyed
      cases hasked : r.obeyed? host value answers with
      | error f =>
        intro hnone
        cases hnone
      | ok b =>
        rw [hasked] at hobeyed
        obtain rfl : b = false := hobeyed
        cases r.message? <;> (intro hnone; cases hnone)

/-- The check of a visible field. -/
theorem Field.run?_of_isShown (hshown : d.isShown? host answers = .ok true) :
    d.check.run? host value answers =
      if value.isEmpty then FieldCheck.demand? host answers d
      else if !d.type.accepts value then .ok (some d.type.refusal)
      else firstBroken? host value answers d.rules := by
  rw [FieldCheck.run?, Field.check, hshown]
  rfl

/-- What is demanded of a field is known where it is known whether it is visible. -/
theorem FieldCheck.demand?_of_isShown? {shown : Bool} (h : d.isShown? host answers = .ok shown) :
    demand? host answers d = .ok (if d.condition.isSome then
      if d.isRequiredNow host answers then some Wording.requiredNow else none
      else if d.required then some Wording.required else none) := by
  rw [demand?, Field.isRequiredNow?_of_isShown? h]
  split <;> rfl

/-- The check of a field without a condition that has a value that fits says what its rules
say. -/
theorem Field.run?_of_accepts (hcond : d.condition = none) (hfull : value.isEmpty = false)
    (haccepts : d.type.accepts value = true) :
    d.check.run? host value answers = firstBroken? host value answers d.rules := by
  rw [run?_of_isShown (isShown?_of_none hcond), hfull, haccepts]
  rfl

/-- A required field without a condition is asked for a value if it has none. -/
theorem Field.run?_of_required (hrequired : d.required = true) (hcond : d.condition = none)
    (hempty : value.isEmpty = true) :
    d.check.run? host value answers = .ok (some Wording.required) := by
  have hshown : d.isShown? host answers = .ok true := isShown?_of_none hcond
  rw [run?_of_isShown hshown, hempty, if_pos rfl, FieldCheck.demand?_of_isShown? hshown, hcond,
    hrequired]
  rfl

end Tried

/-! ## Functions that are in the way -/

/-- A fault **comes of the host**: it comes up in wording one of the host's faults, or in asking
what the host decided whether it is yes or no. -/
def Host.Escapes (host : Host) (f : Fault) : Prop :=
  host.Worsens f ∨ ∃ name value answers, host.vague name value answers = some f

/-- A host is **plain** if its functions word their faults and say yes or no. -/
structure Host.IsPlain (host : Host) : Prop extends host.IsWorded where
  decided : ∀ name value answers, host.vague name value answers = .none

theorem Host.isPlain_none : Host.none.IsPlain := ⟨Host.isWorded_none, fun _ _ _ => rfl⟩

/-- No fault comes of a plain host. -/
theorem Host.IsPlain.not_escapes {host : Host} (h : host.IsPlain) {f : Fault} :
    ¬ host.Escapes f := by
  rintro (hworsens | ⟨name, value, answers, hvague⟩)
  · exact h.toIsWorded.not_worsens hworsens
  · cases (h.decided name value answers).symm.trans hvague

/-- The form's own rule **jams** on a value if its test fails without wording the fault, or gives
what is neither yes nor no. -/
def OwnRule.Jams (host : Host) (value : Value) (answers : Answers) (r : OwnRule) : Prop :=
  (∃ f, r.test.decide? host value answers = .error f ∧ ¬ f.IsWorded) ∨
    ∃ given f, r.test.decide? host value answers = .ok given ∧
      r.test.read? host value answers given = .error f

/-- A field **jams** on a value if it cannot be told whether the field is visible, or if the form's
own rule jams once it is its turn. -/
inductive Field.Jams (host : Host) (value : Value) (answers : Answers) (d : Field) : Prop where
  | untold {f : Fault} (huntold : d.isShown? host answers = .error f)
  | rule {before after : List Rule} {r : OwnRule} (hshown : d.isShown? host answers = .ok true)
      (hfull : value.isEmpty = false) (haccepts : d.type.accepts value = true)
      (hrules : d.rules = before ++ .own r :: after)
      (hbefore : ∀ earlier ∈ before, earlier.obeyed host value answers = true)
      (hjams : r.Jams host value answers)

section Jams

variable {host : Host} {answers : Answers} {value : Value} {d : Field}

/-- Whether a value passes the form's own rule is known unless the rule jams. -/
theorem OwnRule.passes?_failsAs (r : OwnRule) :
    FailsAs host.Escapes (r.passes? host value answers) (r.Jams host value answers) := by
  unfold passes? Jams
  cases hdecide : r.test.decide? host value answers with
  | error f =>
    dsimp only
    constructor
    · rintro (⟨f', hf, hunworded⟩ | ⟨given, f', hgiven, -⟩)
      · cases hf
        obtain ⟨worse, hworse⟩ := Fault.not_isWorded_iff.mp hunworded
        exact ⟨worse, Fault.passOver_eq_error_iff.mpr hworse,
          .inl (Callable.worsens_of_decide? hdecide hworse)⟩
      · cases hgiven
    · intro hnot
      have hworded : f.IsWorded := by
        by_contra hunworded
        exact hnot (.inl ⟨f, rfl, hunworded⟩)
      exact ⟨false, hworded.passOver false⟩
  | ok given =>
    dsimp only
    constructor
    · rintro (⟨f, hf, -⟩ | ⟨given', f, hgiven, hread⟩)
      · cases hf
      · cases hgiven
        obtain ⟨name, hvague⟩ := Callable.vague_of_read? hread
        exact ⟨f, hread, .inr ⟨name, value, answers, hvague⟩⟩
    · intro hnot
      cases hread : r.test.read? host value answers given with
      | error f => exact absurd (.inr ⟨given, f, rfl, hread⟩) hnot
      | ok b => exact ⟨b, rfl⟩

/-- Only the form's own rule can jam. -/
theorem Rule.obeyed?_failsAs (r : Rule) : FailsAs host.Escapes (r.obeyed? host value answers)
    (∃ own, r = .own own ∧ own.Jams host value answers) := by
  cases r with
  | own own => exact own.passes?_failsAs.congr (by simp)
  | _ => exact (FailsAs.ok _).congr (iff_of_false id (by rintro ⟨own, ⟨⟩, -⟩))

/-- Rules that have all their messages can be tried, unless the form's own rule jams when it is its
turn. -/
theorem firstBroken?_failsAs {rules : List Rule}
    (hmessages : ∀ r ∈ rules, ∃ message, r.message? = .ok message) :
    FailsAs host.Escapes (firstBroken? host value answers rules)
      (∃ before own after, rules = before ++ .own own :: after ∧
        (∀ earlier ∈ before, earlier.obeyed host value answers = true) ∧
          own.Jams host value answers) := by
  induction rules with
  | nil => exact (FailsAs.ok _).congr (by simp)
  | cons r rest ih =>
    obtain ⟨⟨message, hmessage⟩, hrest⟩ := List.forall_mem_cons.mp hmessages
    have hfirst : FailsAs host.Escapes (r.obeyed? host value answers) _ := r.obeyed?_failsAs
    have hturn : (∃ before own after, r :: rest = before ++ .own own :: after ∧
        (∀ earlier ∈ before, earlier.obeyed host value answers = true) ∧
          own.Jams host value answers) ↔
        (∃ own, r = .own own ∧ own.Jams host value answers) ∨
          r.obeyed host value answers = true ∧ ∃ before own after,
            rest = before ++ .own own :: after ∧
            (∀ earlier ∈ before, earlier.obeyed host value answers = true) ∧
              own.Jams host value answers := by
      constructor
      · rintro ⟨before, own, after, hsplit, hbefore, hjams⟩
        cases before with
        | nil =>
          obtain ⟨rfl, -⟩ := List.cons.inj hsplit
          exact .inl ⟨own, rfl, hjams⟩
        | cons earlier before =>
          obtain ⟨rfl, rfl⟩ := List.cons.inj hsplit
          obtain ⟨hobeyed, hbefore⟩ := List.forall_mem_cons.mp hbefore
          exact .inr ⟨hobeyed, before, own, after, rfl, hbefore, hjams⟩
      · rintro (⟨own, rfl, hjams⟩ | ⟨hobeyed, before, own, after, rfl, hbefore, hjams⟩)
        · exact ⟨[], own, rest, rfl, by simp, hjams⟩
        · exact ⟨r :: before, own, after, rfl, List.forall_mem_cons.mpr ⟨hobeyed, hbefore⟩, hjams⟩
    rw [hturn, firstBroken?, Rule.check?]
    cases hasked : r.obeyed? host value answers with
    | error f =>
      have hjams := hfirst.exists_iff.mp ⟨f, hasked⟩
      exact (FailsAs.error (hfirst.expected_of_error hasked)).congr
        (iff_of_true trivial (.inl hjams))
    | ok b =>
      have hnot : ¬ ∃ own, r = .own own ∧ own.Jams host value answers := fun hjams => by
        obtain ⟨f, hf⟩ := hfirst.exists_iff.mpr hjams
        cases hasked.symm.trans hf
      have hobeyed : r.obeyed host value answers = b := saidYes_of_eq_ok hasked
      cases b with
      | true => exact (ih hrest).congr (by simp [hnot, hobeyed])
      | false =>
        rw [hmessage]
        exact (FailsAs.ok (some message)).congr (by simp [hnot, hobeyed])

/-- **A field whose rules have all their messages can be checked** unless it jams. -/
theorem Field.run?_failsAs (h : ∀ r ∈ d.rules, ∃ message, r.message? = .ok message) :
    FailsAs host.Escapes (d.check.run? host value answers) (d.Jams host value answers) := by
  have hrules : FailsAs host.Escapes (firstBroken? host value answers d.rules) _ :=
    firstBroken?_failsAs h
  cases hshown : d.isShown? host answers with
  | error f =>
    rw [FieldCheck.run?, Field.check, hshown]
    exact (FailsAs.error (.inl (worsens_of_error hshown))).congr
      (iff_of_true trivial (.untold hshown))
  | ok shown =>
    -- what jams is a rule, and that only of a visible field with a value that fits
    have hrule : d.Jams host value answers → shown = true ∧ value.isEmpty = false ∧
        d.type.accepts value = true ∧ ∃ before own after, d.rules = before ++ .own own :: after ∧
          (∀ earlier ∈ before, earlier.obeyed host value answers = true) ∧
            own.Jams host value answers := by
      rintro (huntold | ⟨hvisible, hfull, haccepts, hsplit, hbefore, hjams⟩)
      · cases hshown.symm.trans huntold
      · have hyes : shown = true := Except.ok.inj (hshown.symm.trans hvisible)
        exact ⟨hyes, hfull, haccepts, _, _, _, hsplit, hbefore, hjams⟩
    cases shown with
    | false =>
      rw [run?_of_hidden hshown]
      refine (FailsAs.ok none).congr (iff_of_false id fun h => ?_)
      cases (hrule h).1
    | true =>
      rw [run?_of_isShown hshown]
      cases hempty : value.isEmpty with
      | true =>
        rw [FieldCheck.demand?_of_isShown? hshown]
        refine (FailsAs.ok _).congr (iff_of_false id fun h => ?_)
        cases hempty.symm.trans (hrule h).2.1
      | false =>
        cases haccepts : d.type.accepts value with
        | false =>
          refine (FailsAs.ok _).congr (iff_of_false id fun h => ?_)
          cases haccepts.symm.trans (hrule h).2.2.1
        | true =>
          refine hrules.congr ⟨?_, fun h => (hrule h).2.2.2⟩
          rintro ⟨before, own, after, hsplit, hbefore, hjams⟩
          exact .rule hshown hempty haccepts hsplit hbefore hjams

/-- A field is **steady** if the functions of its condition word their faults and the form's own
rule never jams, as is so with functions of the engine. -/
structure Field.IsSteady (host : Host) (d : Field) : Prop where
  condition : d.IsWorded host
  own : ∀ r ∈ d.constraints.own, ∀ value answers, ¬ r.Jams host value answers

/-- A steady field never jams. -/
theorem Field.IsSteady.not_jams (h : d.IsSteady host) : ¬ d.Jams host value answers := by
  intro hjams
  cases hjams with
  | untold huntold =>
    obtain ⟨b, hb⟩ := exists_isShown? h.condition answers
    cases hb.symm.trans huntold
  | @rule before after r _ _ _ hrules _ hjams =>
    have hmem : Rule.own r ∈ d.rules := by
      rw [hrules]
      exact List.mem_append_right before List.mem_cons_self
    cases Constraints.isOf_of_mem_rules hmem with
    | own hown => exact h.own r hown value answers hjams

/-- A field without functions is steady. -/
theorem Field.isSteady_of_none (hcondition : d.condition = none) (hown : d.constraints.own = none) :
    d.IsSteady host where
  condition c hc := by
    rw [hcondition] at hc
    cases hc
  own r hr := by
    rw [hown] at hr
    cases hr

/-- A test of the engine never jams. -/
theorem OwnRule.not_jams_of_test {r : OwnRule} {t : RuleTest Value} {identity : Identity}
    (h : r.test = .test t identity) : ¬ r.Jams host value answers := by
  rintro (⟨f, hf, hunworded⟩ | ⟨given, f, -, hread⟩)
  · rw [h] at hf
    exact hunworded (RuleTest.isWorded_of_error hf)
  · rw [h] at hread
    cases hread

end Jams

/-! ## Answers -/

section Answer

variable {host : Host} {answers : Answers} {fields : List Field} {s : Schema}

/-- The check of one field of a schema ends with an answer unless the field jams. -/
theorem Schema.run?_failsAs (hs : Schema.compile fields = .ok s) {d : Field} (hd : d ∈ fields)
    (value : Value) :
    FailsAs host.Escapes (d.check.run? host value answers) (d.Jams host value answers) := by
  obtain ⟨t, ht, -⟩ := Schema.of_compile hs
  exact Field.run?_failsAs fun r hr => exists_message?_of_payload? ht hd hr

/-- The check under the name of a field is the check of that field. -/
theorem Schema.checkField?_eq_run? (hs : Schema.compile fields = .ok s) {d : Field}
    (hd : d ∈ fields) :
    s.checkField? host d.name answers = d.check.run? host (answers.get d.name) answers := by
  have hmem : d.check ∈ s.checks := ((Schema.names_of_compile hs).2 _).mpr ⟨d, hd, rfl⟩
  exact Schema.checkField?_of_mem (Schema.nodup_names_of_compile hs) hmem

/-- **A schema has a report** on all answers unless a field jams. -/
theorem Schema.check?_failsAs (hs : Schema.compile fields = .ok s) :
    FailsAs host.Escapes (s.check? host answers)
      (∃ d ∈ fields, d.Jams host (answers.get d.name) answers) := by
  have hfindings : FailsAs host.Escapes (s.checks.mapM (finding? host answers))
      (∃ d ∈ fields, d.Jams host (answers.get d.name) answers) := by
    obtain ⟨t, -, rfl⟩ := Schema.of_compile hs
    dsimp only
    rw [List.mapM_map]
    exact FailsAs.mapM fun d hd => (Schema.run?_failsAs hs hd _).map _
  exact (hfindings.bind (q := fun _ => False) fun _ _ => FailsAs.ok _).congr (by simp)

/-- **The fault in checking all answers** is that of the first field whose check does not end with
an answer. -/
theorem Schema.check?_eq_error_iff {print : String} {f : Fault} :
    (⟨fields.map Field.check, print⟩ : Schema).check? host answers = .error f ↔
      ∃ before d after, fields = before ++ d :: after ∧
        (∀ e ∈ before, ∃ message,
          e.check.run? host (answers.get e.name) answers = .ok message) ∧
        d.check.run? host (answers.get d.name) answers = .error f := by
  have hfinding : ∀ e : Field, (∃ o, finding? host answers e.check = .ok o) ↔
      ∃ message, e.check.run? host (answers.get e.name) answers = .ok message := by
    intro e
    simp only [finding?_eq_ok_iff]
    exact ⟨fun ⟨_, message, h, _⟩ => ⟨message, h⟩, fun ⟨message, h⟩ => ⟨_, message, h, rfl⟩⟩
  have herror : ∀ e : Field, finding? host answers e.check = .error f ↔
      e.check.run? host (answers.get e.name) answers = .error f := fun e => map_eq_error_iff
  have hcheck : (⟨fields.map Field.check, print⟩ : Schema).check? host answers =
      (fields.mapM fun e => finding? host answers e.check).map fun found =>
        ⟨found.filterMap id⟩ := by
    rw [check?, List.mapM_map]
    show _ = (fields.mapM (finding? host answers ∘ Field.check)).map _
    cases fields.mapM (finding? host answers ∘ Field.check) <;> rfl
  rw [hcheck, map_eq_error_iff, mapM_eq_error_iff]
  simp only [hfinding, herror]

/-- A schema of steady fields has a report on all answers. -/
theorem Schema.exists_check? (hs : Schema.compile fields = .ok s)
    (hsteady : ∀ d ∈ fields, d.IsSteady host) (answers : Answers) :
    ∃ report, s.check? host answers = .ok report :=
  (Schema.check?_failsAs hs).returns fun ⟨d, hd, hjams⟩ => (hsteady d hd).not_jams hjams

/-- A schema has a report on all answers if the host is plain. -/
theorem Schema.exists_check?_of_isPlain (hs : Schema.compile fields = .ok s) (hhost : host.IsPlain)
    (answers : Answers) : ∃ report, s.check? host answers = .ok report := by
  have hcheck : FailsAs host.Escapes (s.check? host answers) _ := Schema.check?_failsAs hs
  exact hcheck.returns_of_not_expected fun _ => hhost.not_escapes

/-- The check under a name ends with an answer unless the field of the name jams. -/
theorem Schema.checkField?_failsAs (hs : Schema.compile fields = .ok s) (name : String) :
    FailsAs host.Escapes (s.checkField? host name answers)
      (∃ d ∈ fields, d.name = name ∧ d.Jams host (answers.get name) answers) := by
  have hdistinct := Schema.nodup_of_compile hs
  by_cases hname : name ∈ fieldNames fields
  · obtain ⟨d, hd, rfl⟩ := List.mem_map.mp hname
    rw [Schema.checkField?_eq_run? hs hd]
    refine (Schema.run?_failsAs hs hd _).congr ⟨fun h => ⟨d, hd, rfl, h⟩, ?_⟩
    rintro ⟨e, he, hsameName, hjams⟩
    rwa [List.inj_on_of_nodup_map hdistinct he hd hsameName] at hjams
  · rw [Schema.checkField?_of_not_mem ((Schema.names_of_compile hs).1 ▸ hname)]
    refine (FailsAs.ok none).congr (iff_of_false id ?_)
    rintro ⟨d, hd, rfl, -⟩
    exact hname (List.mem_map_of_mem hd)

end Answer

/-- **When checking faults.**  Let a schema have been made of some fields.

* It has no report on some answers exactly if one of the fields jams, and no answer under a name
  exactly if the field of that name does.
* The fault is then one that came up in wording a fault of the host, or in asking what the host
  decided whether it is yes or no.  So if the host is plain, there is a report on all answers, and
  an answer under every name, whatever the answers hold.
* Every rule of the fields has its message.
* Whatever it came to to apply a rule to a value that does not suit it, a fault included, the check
  of a field would come out as it does, as no rule is applied to such a value. -/
theorem check_fails_iff {fields : List Field} {s : Schema} (hs : Schema.compile fields = .ok s)
    (host : Host) (answers : Answers) :
    ((∃ f, s.check? host answers = .error f) ↔
      ∃ d ∈ fields, d.Jams host (answers.get d.name) answers) ∧
    (∀ name, (∃ f, s.checkField? host name answers = .error f) ↔
      ∃ d ∈ fields, d.name = name ∧ d.Jams host (answers.get name) answers) ∧
    (∀ f, s.check? host answers = .error f → host.Escapes f) ∧
    (host.IsPlain →
      (∃ report, s.check? host answers = .ok report) ∧
      ∀ name, ∃ message, s.checkField? host name answers = .ok message) ∧
    (∀ d ∈ fields, ∀ r ∈ d.rules, ∃ message, r.message? = .ok message) ∧
    (∀ apply, (∀ r v, r.Suits v → apply r v = r.check? host v answers) → ∀ d ∈ fields, ∀ value,
      d.check.runBy? host answers apply value = d.check.run? host value answers) := by
  obtain ⟨t, ht, -⟩ := Schema.of_compile hs
  have hall : FailsAs host.Escapes (s.check? host answers) _ := Schema.check?_failsAs hs
  have hone : ∀ name, FailsAs host.Escapes (s.checkField? host name answers) _ :=
    Schema.checkField?_failsAs hs
  refine ⟨hall.exists_iff, fun name => (hone name).exists_iff, fun f => hall.expected_of_error,
    fun hplain => ⟨hall.returns_of_not_expected fun _ => hplain.not_escapes,
      fun name => (hone name).returns_of_not_expected fun _ => hplain.not_escapes⟩,
    fun d hd r hr => exists_message?_of_payload? ht hd hr,
    fun apply happly d _ value => FieldCheck.runBy?_eq happly⟩

/-- A form with an amount that has a bound of many digits, a code with a rule that only the host
knows, and tags that are asked for if the host says so of the code. -/
def codedForm : List Field :=
  [{ name := "amount", type := .number, constraints := { maxValue := some (.int (10 ^ 60)) } },
   { name := "code", type := .text,
     constraints := { minLength := some 2, own := some ⟨.host "known", "Unknown code"⟩ } },
   { name := "size", type := .multiValue, constraints := { maxLength := some 3 } },
   { name := "tags", type := .multiSelect, constraints := { maxItems := some 1 },
     condition := some ⟨⟨"code", .callable (.host "tagged")⟩, true, none⟩ }]

/-- Answers of the wrong sorts, with a code that can be measured. -/
def wrongSorts : Answers := .ofEntries
  [("amount", .text "many"), ("code", .text "xy"), ("size", .text "four"), ("tags", .int 5)]

/-- The form with a code is checked also where all answers are of the wrong sorts and the host knows
none of its functions. -/
theorem check_codedForm :
    ∃ s, Schema.compile codedForm = .ok s ∧
      (∃ report, s.check? Host.none wrongSorts = .ok report) ∧
      s.checkField? Host.none "amount" wrongSorts = .ok (some Wording.invalidNumber) ∧
      s.checkField? Host.none "code" wrongSorts = .ok (some "Unknown code") ∧
      s.checkField? Host.none "size" wrongSorts = .ok (some Wording.invalidList) ∧
      s.checkField? Host.none "tags" wrongSorts = .ok none := by
  obtain ⟨t, ht⟩ : ∃ t, payload? codedForm = .ok t := by
    refine exists_payload? fun d hd => ?_
    simp only [codedForm, List.mem_cons, List.not_mem_nil, or_false] at hd
    rcases hd with rfl | rfl | rfl | rfl <;> exact ⟨_, rfl⟩
  have hs := Schema.compile_eq_ok (by decide : (fieldNames codedForm).Nodup) ht
  obtain ⟨-, -, -, hreturns, -⟩ := check_fails_iff hs Host.none wrongSorts
  exact ⟨_, hs, (hreturns Host.isPlain_none).1, rfl, rfl, rfl, rfl⟩

/-- The host that decides by looking a value up in a table that is empty. -/
def tableHost : Host where
  decide _ v _ := .error (.hostRaised "KeyError" (match v.shown? with
    | .ok text => text
    | .error f => .fails f))
  clean name _ := .error (.unknownName name)

/-- A remark that is asked for if the number is in the table. -/
def listedRemark : Field where
  name := "remark"
  type := .text
  condition := some ⟨⟨"number", .callable (.host "listed")⟩, false, none⟩

/-- Where the number is long, the fault in looking it up has no wording. -/
theorem isShown?_listedRemark {answers : Answers} {n : Int} (hget : answers.get "number" = .int n)
    (hlong : Value.IsLong n) : listedRemark.isShown? tableHost answers = .error .tooManyDigits := by
  have hshown : (Value.int n).shown? = .error .tooManyDigits :=
    (Value.shown?_failsIff _).eq_error (.int hlong)
  have hfault : tableHost.decide "listed" (.int n) answers =
      .error (.hostRaised "KeyError" (.fails .tooManyDigits)) := by
    simp only [tableHost, hshown]
  show (⟨⟨"number", .callable (.host "listed")⟩, false, none⟩ : Condition).holds? _ _ = _
  simp only [Condition.holds?, Clause.holds?, hget, Callable.holds?, Callable.decide?, hfault]
  rfl

/-- So the check of the remark faults. -/
theorem run?_listedRemark {answers : Answers} {n : Int} (hget : answers.get "number" = .int n)
    (hlong : Value.IsLong n) (value : Value) :
    listedRemark.check.run? tableHost value answers = .error .tooManyDigits := by
  rw [FieldCheck.run?, Field.check, isShown?_listedRemark hget hlong]
  rfl

/-- A form that asks for a number, and for such a remark. -/
def listedForm : List Field := [listedRemark, { name := "number", type := .number }]

/-- The form has a schema. -/
theorem exists_compile_listedForm :
    ∃ print, Schema.compile listedForm = .ok ⟨listedForm.map Field.check, print⟩ := by
  obtain ⟨t, ht⟩ : ∃ t, payload? listedForm = .ok t := by
    refine exists_payload? fun d hd => ?_
    simp only [listedForm, List.mem_cons, List.not_mem_nil, or_false] at hd
    rcases hd with rfl | rfl <;> exact ⟨_, rfl⟩
  exact ⟨_, Schema.compile_eq_ok (by decide) ht⟩

/-- An answer to it that is not in the table, and has too many digits to be said. -/
def longAnswers : Answers := .ofEntries [("number", .int (10 ^ Value.digitLimit))]

/-- Where it is given, a fault comes of checking the answers. -/
theorem check?_listedForm (print : String) :
    (⟨listedForm.map Field.check, print⟩ : Schema).check? tableHost longAnswers =
      .error .tooManyDigits :=
  Schema.check?_eq_error_iff.mpr ⟨[], listedRemark, [_], rfl, List.forall_mem_nil _,
    run?_listedRemark rfl Value.isLong_pow _⟩

/-- **Checking can fault**: where the number is not in the table, and too long to be said, this is
what comes of checking the answers, be it all of them or the remark alone. -/
theorem check_listedRemark :
    ∃ s, Schema.compile listedForm = .ok s ∧
      s.check? tableHost longAnswers = .error .tooManyDigits ∧
      s.checkField? tableHost "remark" longAnswers = .error .tooManyDigits := by
  obtain ⟨print, hs⟩ := exists_compile_listedForm
  have hmem : listedRemark ∈ listedForm := List.mem_cons_self
  exact ⟨_, hs, check?_listedForm print, (Schema.checkField?_eq_run? hs hmem).trans
    (run?_listedRemark rfl Value.isLong_pow _)⟩

end Intake
