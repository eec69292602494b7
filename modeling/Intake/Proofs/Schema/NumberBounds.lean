import Intake.Proofs.Number.Nearest
import Intake.Proofs.Schema.Layers

/-!
# Whole numbers and their bounds

A number that was entered is rounded before it is compared, and the bound that it is compared with
is not.  So a field with whole bounds goes by the order of integers after the answer has been
rounded. Where rounding carries the answer over a bound, a message comes about a bound that the
answer keeps, or none about one that it breaks; everywhere else the report is what the order of
integers says.

* `brokenBound?` is the first bound that an integer breaks, in the order of integers;
* `brokenBound?_eq_iff` says when two integers break the same;
* `messageFor_integer` says what a report says of an integer, and exactly when that is right;
* `bound_told_wrongly` is an integer of which both happens.
-/

namespace Intake

open Binary64 (nearest placeOf)

/-- The first of two bounds that an integer breaks, the lower one before the upper one. -/
def brokenBound? (low high : Option Int) (n : Int) : Option Rule :=
  ((low.filter fun l => n < l).map fun l => Rule.minValue (.int l)).or
    ((high.filter fun h => h < n).map fun h => Rule.maxValue (.int h))

/-- The message of a broken rule, if one is broken. -/
def messageOf? (broken : Option Rule) : Except Fault (Option String) :=
  match broken with
  | some r => r.message?.map some
  | none => .ok none

/-! ## The order of integers -/

section Order

variable {low high : Option Int}

/-- An integer that breaks the lower bound breaks that one first. -/
theorem brokenBound?_of_lt {l n : Int} (h : n < l) :
    brokenBound? (some l) high n = some (.minValue (.int l)) := by
  simp [brokenBound?, Option.filter, h]

/-- An integer that keeps the lower bound is held to the upper one. -/
theorem brokenBound?_of_le {n : Int} (h : ∀ l ∈ low, l ≤ n) :
    brokenBound? low high n = (high.filter fun b => b < n).map fun b => .maxValue (.int b) := by
  have hkept : low.filter (fun l => n < l) = none := by
    refine Option.filter_eq_none_iff.mpr fun l hl => ?_
    have := h l hl
    simpa using this
  rw [brokenBound?, hkept]
  rfl

/-- An integer that keeps the lower bound is not told of it. -/
theorem brokenBound?_ne_minValue {n : Int} (h : ∀ l ∈ low, l ≤ n) (b : Bound) :
    brokenBound? low high n ≠ some (.minValue b) := by
  rw [brokenBound?_of_le h]
  intro hsome
  obtain ⟨c, -, hrule⟩ := Option.map_eq_some_iff.mp hsome
  cases hrule

/-- Two integers that keep the lower bound break the same exactly if they stand on the same side of
the upper one. -/
theorem brokenBound?_eq_iff_of_le {a b : Int} (ha : ∀ l ∈ low, l ≤ a) (hb : ∀ l ∈ low, l ≤ b) :
    brokenBound? low high a = brokenBound? low high b ↔ ∀ h ∈ high, h < a ↔ h < b := by
  rw [brokenBound?_of_le ha, brokenBound?_of_le hb]
  cases high with
  | none => simp
  | some h =>
    by_cases ha : h < a <;> by_cases hb : h < b <;> simp [Option.filter, ha, hb]

/-- Two integers break the same bound exactly if they stand on the same side of the lower one, and
of the upper one too if they keep the lower one. -/
theorem brokenBound?_eq_iff {a b : Int} :
    brokenBound? low high a = brokenBound? low high b ↔
      (∀ l ∈ low, a < l ↔ b < l) ∧ ((∀ l ∈ low, l ≤ b) → ∀ h ∈ high, h < a ↔ h < b) := by
  cases low with
  | none =>
    rw [brokenBound?_eq_iff_of_le (by simp) (by simp)]
    simp
  | some l =>
    have hkeeps : ∀ {n : Int}, ¬n < l → ∀ l' ∈ some l, l' ≤ n := by
      intro n hn l' hl'
      cases hl'
      exact not_lt.mp hn
    by_cases ha : a < l
    · by_cases hb : b < l
      · simp [brokenBound?_of_lt ha, brokenBound?_of_lt hb, ha, hb]
      · rw [brokenBound?_of_lt ha, eq_comm]
        simp [brokenBound?_ne_minValue (hkeeps hb), ha, hb]
    · by_cases hb : b < l
      · rw [brokenBound?_of_lt hb]
        simp [brokenBound?_ne_minValue (hkeeps ha), ha, hb]
      · rw [brokenBound?_eq_iff_of_le (hkeeps ha) (hkeeps hb)]
        simp [ha, hb, not_lt.mp hb]

end Order

/-! ## Messages -/

/-- The messages for the two bounds are different. -/
theorem Wording.minValue?_ne_maxValue? {b c : Bound} {message : String}
    (hmin : minValue? b = .ok message) : maxValue? c ≠ .ok message := by
  intro hmax
  obtain ⟨low, -, rfl⟩ := exists_of_map_eq_ok hmin
  obtain ⟨high, -, hsame⟩ := exists_of_map_eq_ok hmax
  -- the messages part at "at least" and "no more than"
  have hparts : ("Must be no more than " ++ high).toList[8]? =
      ("Must be at least " ++ low).toList[8]? := by
    rw [hsame]
  simp [String.toList_append] at hparts

section Messages

variable {low high : Option Int}

/-- There are two rules for the bounds. -/
theorem mem_brokenBound? {n : Int} {r : Rule} (h : r ∈ brokenBound? low high n) :
    (∃ l, low = some l ∧ r = .minValue (.int l)) ∨ ∃ b, high = some b ∧ r = .maxValue (.int b) := by
  rcases Option.or_eq_some_iff.mp h with hlow | ⟨-, hhigh⟩
  · obtain ⟨l, hl, rfl⟩ := Option.map_eq_some_iff.mp hlow
    exact .inl ⟨l, (Option.filter_eq_some_iff.mp hl).1, rfl⟩
  · obtain ⟨b, hb, rfl⟩ := Option.map_eq_some_iff.mp hhigh
    exact .inr ⟨b, (Option.filter_eq_some_iff.mp hb).1, rfl⟩

/-- Something is said of a broken rule, or nothing if there is none, provided that it has its
message.
-/
theorem exists_messageOf? {broken : Option Rule}
    (h : ∀ r ∈ broken, ∃ message, r.message? = .ok message) :
    ∃ message, messageOf? broken = .ok message := by
  cases broken with
  | none => exact ⟨none, rfl⟩
  | some r =>
    obtain ⟨message, hmessage⟩ := h r rfl
    exact ⟨some message, by rw [messageOf?, hmessage]; rfl⟩

/-- Of two integers the same is said exactly if they break the same bound, provided that the bounds
can be written. -/
theorem messageOf?_brokenBound?_eq_iff {a b : Int}
    (hwritten : ∀ n, ∀ r ∈ brokenBound? low high n, ∃ message, r.message? = .ok message) :
    messageOf? (brokenBound? low high a) = messageOf? (brokenBound? low high b) ↔
      brokenBound? low high a = brokenBound? low high b := by
  refine ⟨fun hsame => ?_, congrArg messageOf?⟩
  have hsaid : ∀ {n : Int} {r : Rule}, brokenBound? low high n = some r →
      ∃ message, r.message? = .ok message ∧
        messageOf? (brokenBound? low high n) = .ok (some message) := by
    intro n r hr
    obtain ⟨message, hmessage⟩ := hwritten n r hr
    refine ⟨message, hmessage, ?_⟩
    rw [hr, messageOf?, hmessage]
    rfl
  cases ha : brokenBound? low high a with
  | none =>
    cases hb : brokenBound? low high b with
    | none => rfl
    | some r =>
      obtain ⟨message, -, hmessage⟩ := hsaid hb
      rw [hmessage, ha] at hsame
      cases hsame
  | some r =>
    obtain ⟨message, hr, hmessage⟩ := hsaid ha
    cases hb : brokenBound? low high b with
    | none =>
      rw [hmessage, hb] at hsame
      cases hsame
    | some r' =>
      obtain ⟨message', hr', hmessage'⟩ := hsaid hb
      obtain rfl : message = message' := by
        rw [hmessage, hmessage'] at hsame
        exact Option.some.inj (Except.ok.inj hsame)
      rcases mem_brokenBound? ha with ⟨l, hl, rfl⟩ | ⟨c, hc, rfl⟩
      · rcases mem_brokenBound? hb with ⟨l', hl', rfl⟩ | ⟨c', -, rfl⟩
        · rw [hl, Option.some.injEq] at hl'
          rw [hl']
        · exact absurd hr' (Wording.minValue?_ne_maxValue? hr)
      · rcases mem_brokenBound? hb with ⟨l', -, rfl⟩ | ⟨c', hc', rfl⟩
        · exact absurd hr (Wording.minValue?_ne_maxValue? hr')
        · rw [hc, Option.some.injEq] at hc'
          rw [hc']

end Messages

/-! ## Rules and integers -/

section Rules

variable {host : Host} {answers : Answers} {n : Int} {x : Binary64}

/-- An integer is compared with a whole bound as what it is rounded to. -/
theorem Bound.compareValue?_integer (hx : Binary64.ofInt? n = some x) (b : Int) :
    (Bound.int b).compareValue? (.int n) = some (compare (nearest n) b) := by
  have hamount : Value.amount? (.int n) = some x := hx
  rw [compareValue?, hamount, Option.bind_some, compareAmount?, Binary64.compareInt?_of_ofInt? hx]

/-- A lower bound on an integer holds of what it is rounded to. -/
theorem Rule.obeyed?_minValue_integer (hx : Binary64.ofInt? n = some x) (l : Int) :
    (Rule.minValue (.int l)).obeyed? host (.int n) answers = .ok !decide (nearest n < l) := by
  rw [Rule.obeyed?, Bound.compareValue?_integer hx]
  by_cases hbroken : nearest n < l
  · simp [hbroken, compare_lt_iff_lt.mpr hbroken]
  · simp [hbroken, compare_lt_iff_lt]

/-- An upper bound on an integer holds of what it is rounded to. -/
theorem Rule.obeyed?_maxValue_integer (hx : Binary64.ofInt? n = some x) (h : Int) :
    (Rule.maxValue (.int h)).obeyed? host (.int n) answers = .ok !decide (h < nearest n) := by
  rw [Rule.obeyed?, Bound.compareValue?_integer hx]
  by_cases hbroken : h < nearest n
  · simp [hbroken, compare_gt_iff_gt.mpr hbroken]
  · simp [hbroken, compare_gt_iff_gt]

/-- The first rule has its say, and where it is obeyed the others have theirs. -/
theorem firstBroken?_cons {value : Value} {r : Rule} {obeyed : Bool}
    (h : r.obeyed? host value answers = .ok obeyed) (rest : List Rule) :
    firstBroken? host value answers (r :: rest) =
      if obeyed then firstBroken? host value answers rest else r.message?.map some := by
  rw [firstBroken?, Rule.check?, h]
  cases obeyed with
  | true => rfl
  | false => cases r.message? <;> rfl

/-- **Whole bounds are tried in their order.**  Of an integer they say what the first of them says
that is broken by what the integer is rounded to. -/
theorem firstBroken?_integer (low high : Option Int) (hx : Binary64.ofInt? n = some x) :
    firstBroken? host (.int n) answers ((low.toList.map fun l => Rule.minValue (.int l)) ++
        high.toList.map fun h => Rule.maxValue (.int h)) =
      messageOf? (brokenBound? low high (nearest n)) := by
  have hupper : firstBroken? host (.int n) answers
        (high.toList.map fun h => Rule.maxValue (.int h)) =
      messageOf? ((high.filter fun h => h < nearest n).map fun h => .maxValue (.int h)) := by
    cases high with
    | none => rfl
    | some h =>
      rw [Option.toList_some, List.map_cons, firstBroken?_cons (Rule.obeyed?_maxValue_integer hx h)]
      by_cases hbroken : h < nearest n
      · simp [Option.filter, hbroken, messageOf?]
      · simp [Option.filter, hbroken, messageOf?, firstBroken?]
  cases low with
  | none =>
    rw [brokenBound?_of_le (by simp)]
    exact hupper
  | some l =>
    rw [Option.toList_some, List.map_cons, List.map_nil, List.singleton_append,
      firstBroken?_cons (Rule.obeyed?_minValue_integer hx l)]
    by_cases hbroken : nearest n < l
    · rw [brokenBound?_of_lt hbroken]
      simp [hbroken, messageOf?]
    · rw [brokenBound?_of_le (by simpa using hbroken), ← hupper]
      simp [hbroken]

end Rules

/-! ## Reports on integers -/

/-- A field for numbers that is always visible, with whole bounds and no other rule. -/
structure Field.IsBounded (d : Field) (low high : Option Int) : Prop where
  type : d.type = .number
  condition : d.condition = none
  own : d.constraints.own = none
  low : d.constraints.minValue = low.map .int
  high : d.constraints.maxValue = high.map .int

section Report

variable {d : Field} {low high : Option Int} {n : Int}

/-- The rules of a field with whole bounds are the bounds. -/
theorem Field.IsBounded.rules_eq (h : d.IsBounded low high) :
    d.rules = (low.toList.map fun l => Rule.minValue (.int l)) ++
      high.toList.map fun h => Rule.maxValue (.int h) := by
  rw [Field.rules, Constraints.rules, if_pos h.type, h.own, Constraints.numberRules, h.low, h.high,
    Option.toList_map, Option.toList_map, List.map_map, List.map_map]
  exact List.append_nil _

/-- A bound that is broken is one of the rules. -/
theorem Field.IsBounded.mem_rules (h : d.IsBounded low high) {r : Rule}
    (hr : r ∈ brokenBound? low high n) : r ∈ d.rules := by
  rw [h.rules_eq, List.mem_append]
  rcases mem_brokenBound? hr with ⟨l, rfl, rfl⟩ | ⟨b, rfl, rfl⟩
  · simp
  · simp

/-- The check of a field with whole bounds says of an integer what the order of the rounded integer
says. -/
theorem Field.IsBounded.run?_eq (h : d.IsBounded low high)
    (hrange : (Binary64.ofInt? n).isSome = true) (host : Host) (answers : Answers) :
    d.check.run? host (.int n) answers = messageOf? (brokenBound? low high (nearest n)) := by
  obtain ⟨x, hx⟩ := Option.isSome_iff_exists.mp hrange
  have haccepts : d.type.accepts (.int n) = true := by
    rw [h.type]
    exact hrange
  rw [run?_of_accepts h.condition rfl haccepts, h.rules_eq]
  exact firstBroken?_integer low high hx

/-- An integer is rounded over no bound if it is short, or if all bounds are far from it. -/
theorem brokenBound?_nearest (h : n.natAbs ≤ 2 ^ 53 ∨
    ∀ b, low = some b ∨ high = some b → 2 ^ placeOf n.natAbs < 2 * (b - n).natAbs) :
    brokenBound? low high (nearest n) = brokenBound? low high n := by
  rcases h with hshort | hfar
  · rw [Binary64.nearest_of_natAbs_le hshort]
  · have hstep := Binary64.two_mul_natAbs_sub_nearest_le n
    refine brokenBound?_eq_iff.mpr ⟨fun l hl => ?_, fun _ b hb => ?_⟩
    · have := hfar l (.inl hl)
      omega
    · have := hfar b (.inr hb)
      omega

/-- A report says of an integer what the check of its field says. -/
theorem Field.IsBounded.messageFor?_eq (h : d.IsBounded low high) {fields : List Field}
    {s : Schema} (hs : Schema.compile fields = .ok s) (hd : d ∈ fields)
    (hrange : (Binary64.ofInt? n).isSome = true) {host : Host} {answers : Answers}
    (hanswer : answers.get d.name = .int n) {report : Report}
    (hreport : s.check? host answers = .ok report) :
    messageOf? (brokenBound? low high (nearest n)) = .ok (report.messageFor? d.name) := by
  rw [← Schema.run?_eq_messageFor? hs hd hreport, hanswer, h.run?_eq hrange host answers]

/-- **Whole bounds hold for rounded integers.**  Let a field for numbers have whole bounds and
neither a rule of its own nor a condition, and let its answer be an integer within the range.  Then
the check of the field, like every report on all answers, has the message of the lower bound if the
integer is rounded to one below it, or else the message of the upper bound if it is rounded to one
above that, or else none.  There is a report if all fields are steady.

* This is what the order of integers says exactly if rounding carries the integer over neither the
  lower bound nor, where it keeps that one, the upper bound;
* so it is if the integer is at most `2 ^ 53`, of either sign, or if no bound is so near to the
  integer as half a step of 53 bits. -/
theorem messageFor_integer {fields : List Field} {s : Schema} (hs : Schema.compile fields = .ok s)
    (hd : d ∈ fields) (hbounded : d.IsBounded low high)
    (hrange : (Binary64.ofInt? n).isSome = true) (host : Host) {answers : Answers}
    (hanswer : answers.get d.name = .int n) :
    ∃ message, s.checkField? host d.name answers = .ok message ∧
      (∀ report, s.check? host answers = .ok report → report.messageFor? d.name = message) ∧
      ((∀ e ∈ fields, e.IsSteady host) → ∃ report, s.check? host answers = .ok report) ∧
      messageOf? (brokenBound? low high (nearest n)) = .ok message ∧
      (messageOf? (brokenBound? low high n) = .ok message ↔
        (∀ l ∈ low, nearest n < l ↔ n < l) ∧
          ((∀ l ∈ low, l ≤ n) → ∀ h ∈ high, h < nearest n ↔ h < n)) ∧
      ((n.natAbs ≤ 2 ^ 53 ∨
          ∀ b, low = some b ∨ high = some b → 2 ^ placeOf n.natAbs < 2 * (b - n).natAbs) →
        messageOf? (brokenBound? low high n) = .ok message) := by
  obtain ⟨t, ht, -⟩ := Schema.of_compile hs
  have hwritten : ∀ m, ∀ r ∈ brokenBound? low high m, ∃ message, r.message? = .ok message :=
    fun _ _ hr => exists_message?_of_payload? ht hd (hbounded.mem_rules hr)
  obtain ⟨message, hmessage⟩ := exists_messageOf? (hwritten (nearest n))
  refine ⟨message, ?_, fun report hreport => ?_,
    fun hsteady => Schema.exists_check? hs hsteady answers, hmessage, ?_, fun hkept => ?_⟩
  · rw [Schema.checkField?_eq_run? hs hd, hanswer, hbounded.run?_eq hrange, hmessage]
  · have hsame := hbounded.messageFor?_eq hs hd hrange hanswer hreport
    exact Except.ok.inj (hsame.symm.trans hmessage)
  · rw [← hmessage, eq_comm, messageOf?_brokenBound?_eq_iff hwritten, brokenBound?_eq_iff]
  · rw [← hmessage, brokenBound?_nearest hkept]

end Report

/-- Two counts with a bound each, at the first integer that has no number of its own and next to it.
-/
def countsForm : List Field :=
  [{ name := "least", type := .number,
     constraints := { minValue := some (.int 9007199254740993) } },
   { name := "most", type := .number,
     constraints := { maxValue := some (.int 9007199254740992) } }]

/-- The first integer that has no number of its own, for both counts. -/
def countsAnswers : Answers :=
  .ofEntries [("least", .int 9007199254740993), ("most", .int 9007199254740993)]

/-- The first count has a lower bound. -/
theorem isBounded_least : (countsForm[0]).IsBounded (some 9007199254740993) none :=
  ⟨rfl, rfl, rfl, rfl, rfl⟩

/-- The second count has an upper bound. -/
theorem isBounded_most : (countsForm[1]).IsBounded none (some 9007199254740992) :=
  ⟨rfl, rfl, rfl, rfl, rfl⟩

/-- The counts have no functions. -/
theorem isSteady_countsForm : ∀ d ∈ countsForm, d.IsSteady Host.none := by
  intro d hd
  simp only [countsForm, List.mem_cons, List.not_mem_nil, or_false] at hd
  rcases hd with rfl | rfl <;> exact Field.isSteady_of_none rfl rfl

/-- The fields of the two counts have a schema. -/
theorem exists_compile_countsForm : ∃ s, Schema.compile countsForm = .ok s := by
  obtain ⟨t, ht⟩ : ∃ t, payload? countsForm = .ok t := by
    refine exists_payload? fun d hd => ?_
    simp only [countsForm, List.mem_cons, List.not_mem_nil, or_false] at hd
    rcases hd with rfl | rfl <;> exact ⟨_, rfl⟩
  exact ⟨_, Schema.compile_eq_ok (by decide : (fieldNames countsForm).Nodup) ht⟩

/-- A number is told to be below a bound that it is equal to, since the number before it is what it
is rounded to, and the bound is not rounded. -/
theorem messageFor_least : ∃ s report, Schema.compile countsForm = .ok s ∧
    s.check? Host.none countsAnswers = .ok report ∧
    report.messageFor? "least" = some "Must be at least 9007199254740993" := by
  obtain ⟨s, hs⟩ := exists_compile_countsForm
  have hrange : (Binary64.ofInt? 9007199254740993).isSome = true :=
    Binary64.isSome_ofInt? (by decide : 54 < 1024) (by decide)
  have hanswer : countsAnswers.get countsForm[0].name = .int 9007199254740993 := rfl
  obtain ⟨message, -, hreported, hexists, hmessage, -⟩ := messageFor_integer hs (List.getElem_mem _)
    isBounded_least hrange Host.none hanswer
  obtain ⟨report, hreport⟩ := hexists isSteady_countsForm
  exact ⟨s, report, hs, hreport, (hreported report hreport).trans (Except.ok.inj hmessage).symm⟩

/-- **A bound is told wrongly.**  Of one integer, the same for both counts, it is reported that it
is not as large as itself, and nothing is reported of its being larger than a bound. -/
theorem bound_told_wrongly : ∃ s report, Schema.compile countsForm = .ok s ∧
    s.check? Host.none countsAnswers = .ok report ∧
    (messageOf? (brokenBound? (some 9007199254740993) none 9007199254740993) = .ok none ∧
      report.messageFor? "least" = some "Must be at least 9007199254740993") ∧
    (messageOf? (brokenBound? none (some 9007199254740992) 9007199254740993) =
        .ok (some "Must be no more than 9007199254740992") ∧
      report.messageFor? "most" = none) := by
  obtain ⟨s, hs⟩ := exists_compile_countsForm
  obtain ⟨report, hreport⟩ := Schema.exists_check? hs isSteady_countsForm countsAnswers
  have hrange : (Binary64.ofInt? 9007199254740993).isSome = true :=
    Binary64.isSome_ofInt? (by decide : 54 < 1024) (by decide)
  have hleast := isBounded_least.messageFor?_eq hs (List.getElem_mem _) hrange rfl hreport
  have hmost := isBounded_most.messageFor?_eq hs (List.getElem_mem _) hrange rfl hreport
  exact ⟨s, report, hs, hreport, ⟨rfl, (Except.ok.inj hleast).symm⟩, rfl,
    (Except.ok.inj hmost).symm⟩

end Intake
