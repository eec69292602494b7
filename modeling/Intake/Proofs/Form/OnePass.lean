import Intake.Proofs.Form.Order

/-!
# Fields listed after what they read

Answers are brought into agreement in place, in as many passes as it takes.  Where every field is
listed after those that it reads, this comes to something simpler: go through the fields once, and
make each final from what has become final before it.  A count is that of its source, a hidden field
is empty, a visible one that is unset takes its fallback, and all others are what cleaning makes of
what was entered.

Two zeros of floating point are the same to every condition, whatever their signs.  So a zero that
would be replaced by the other one is left as it is, and it is up to the sign of a zero that the
one pass gives what the passes in place give.

* `Value.Alike` says that two values are equal up to the sign of a zero, and
  `Value.alike_of_sameAs` that what is not written makes no more of a difference than this;
* `Field.isShown_of_alike` says that a field of the engine does not see the sign of a zero;
* `onePass?` is the one pass, `Field.final?_eq` compares one step of it with settling a field,
  and `settlePass_onePass?` the whole of it with a pass in place;
* `sanitize_onePass` is the conclusion.
-/

namespace Intake

/-! ## The sign of a zero -/

namespace Binary64

/-- A zero of either sign is compared as the other one is. -/
theorem zeroOf_eqv (a b : Bool) (x : Binary64) : (zeroOf a).eqv x = (zeroOf b).eqv x := by
  cases x with
  | nan => rfl
  | infinite c => cases c <;> rfl
  | finite c m p normal => cases a <;> cases b <;> simp [eqv, compare?, zeroOf]

/-- A zero of either sign equals the integers that the other one equals. -/
theorem zeroOf_eqvInt (a b : Bool) (n : Int) : (zeroOf a).eqvInt n = (zeroOf b).eqvInt n := by
  cases a <;> cases b <;> simp [eqvInt, compareInt?, zeroOf]

end Binary64

namespace Value

/-- Two values are **alike** if they are equal, or zeros of floating point of whatever signs. -/
def Alike (v w : Value) : Prop :=
  v = w ∨ ∃ a b, v = .float (.zeroOf a) ∧ w = .float (.zeroOf b)

variable {v w : Value}

/-- Every value is like itself. -/
theorem Alike.refl (v : Value) : v.Alike v := .inl rfl

/-- **What is not written makes no difference but the sign of a zero.**  A value that is the same as
what an unset field holds is like it. -/
theorem alike_of_sameAs {d : Field} (hsame : w.sameAs v = true) (hunset : d.isUnset v = true) :
    v.Alike w := by
  rcases Field.isUnset_cases hunset with hexact | ⟨negative, rfl⟩
  · exact .inl ((hexact.right w).mp hsame).symm
  · obtain ⟨other, rfl⟩ := sameAs_zero_iff.mp hsame
    exact .inr ⟨negative, other, rfl, rfl⟩

/-- Values that are alike have as many items. -/
theorem Alike.itemCount_eq (h : v.Alike w) : v.itemCount = w.itemCount := by
  rcases h with rfl | ⟨a, b, rfl, rfl⟩
  · rfl
  · rfl

/-- Values that are alike equal the same literals. -/
theorem Alike.strictEqv_eq (h : v.Alike w) (literal : Value) :
    v.strictEqv literal = w.strictEqv literal := by
  rcases h with rfl | ⟨a, b, rfl, rfl⟩
  · rfl
  cases literal with
  | int n => simpa [strictEqv, eqv, eqvFloat] using Binary64.zeroOf_eqvInt a b n
  | float x => simpa [strictEqv, eqv, eqvFloat] using Binary64.zeroOf_eqv a b x
  | _ => simp [strictEqv, eqv, eqvFloat]

/-- A predicate of the engine holds alike of values that are alike. -/
theorem Alike.holds?_eq (h : v.Alike w) (p : Predicate Value) : p.holds? v = p.holds? w := by
  cases p with
  | equals expected => exact congrArg Except.ok (h.strictEqv_eq expected)
  | contains item =>
    rcases h with rfl | ⟨a, b, rfl, rfl⟩
    · rfl
    · rfl
  | isTruthy =>
    rcases h with rfl | ⟨a, b, rfl, rfl⟩
    · rfl
    · rfl
  | notEmpty =>
    rcases h with rfl | ⟨a, b, rfl, rfl⟩
    · rfl
    · rfl

end Value

/-- Two sets of answers are **alike** if they have the same names in the same order, with values
that are alike. -/
structure Answers.Alike (a b : Answers) : Prop where
  keys : a.keys = b.keys
  get : ∀ name, (a.get name).Alike (b.get name)

/-! ## Conditions of the engine -/

/-- A clause is **of the engine** if it has a literal, or a predicate of the engine. -/
def Clause.IsOfEngine (c : Clause) : Prop :=
  ∀ f, c.expected = .callable f → ∃ p identity, f = .predicate p identity

/-- A field is **of the engine** if the clauses of its condition are. -/
def Field.IsOfEngine (d : Field) : Prop :=
  ∀ c ∈ d.condition, c.clause.IsOfEngine ∧ ∀ second ∈ c.second, second.IsOfEngine

section Engine

variable {host : Host} {a b : Answers} {d : Field}

/-- A clause of the engine looks at no answer but its own. -/
theorem Clause.IsOfEngine.isLocal {c : Clause} (h : c.IsOfEngine) : c.IsLocal host := by
  intro f hf value answers answers'
  obtain ⟨p, identity, rfl⟩ := h f hf
  rfl

/-- A field of the engine looks at no answers but those that it reads. -/
theorem Field.IsOfEngine.isLocal (h : d.IsOfEngine) : d.IsLocal host := by
  intro c hc
  obtain ⟨hfirst, hsecond⟩ := h c hc
  exact ⟨hfirst.isLocal, fun second hmem => (hsecond second hmem).isLocal⟩

/-- A clause of the engine words its faults. -/
theorem Clause.IsOfEngine.isWorded {c : Clause} (h : c.IsOfEngine) : c.IsWorded host := by
  intro f hf
  obtain ⟨p, identity, rfl⟩ := h f hf
  exact isWorded_of_predicate hf _ hf

/-- Of a field of the engine it can be told whether it is visible. -/
theorem Field.IsOfEngine.isWorded (h : d.IsOfEngine) : d.IsWorded host := by
  intro c hc
  obtain ⟨hfirst, hsecond⟩ := h c hc
  exact ⟨hfirst.isWorded, fun second hmem => (hsecond second hmem).isWorded⟩

/-- A clause of the engine holds alike of answers that are alike. -/
theorem Clause.IsOfEngine.holds?_eq {c : Clause} (h : c.IsOfEngine)
    (halike : (a.get c.field).Alike (b.get c.field)) : c.holds? host a = c.holds? host b := by
  unfold Clause.holds?
  split
  · rename_i f hf
    obtain ⟨p, identity, rfl⟩ := h f hf
    have hsame : p.holds? (a.get c.field) = p.holds? (b.get c.field) := halike.holds?_eq p
    simp only [Callable.holds?, Callable.decide?, hsame]
    rfl
  · exact congrArg Except.ok (halike.strictEqv_eq _)

/-- **No field of the engine sees the sign of a zero**: it is shown alike where what it reads is
alike. -/
theorem Field.isShown_of_alike (h : d.IsOfEngine)
    (halike : ∀ source ∈ d.reads, (a.get source).Alike (b.get source)) :
    d.isShown host a = d.isShown host b := by
  refine congrArg saidYes (isShown?_eq_of_clauses fun c hc => ?_)
  obtain ⟨hfirst, hsecond⟩ := h c hc
  obtain ⟨hread, hreads⟩ := mem_reads_of_condition hc
  exact ⟨hfirst.holds?_eq (halike _ hread),
    fun second hmem => (hsecond second hmem).holds?_eq (halike _ (hreads second hmem))⟩

end Engine

/-! ## The one pass -/

/-- What a field finally holds, by the final answers of the fields before it and by what cleaning
has made of its own answer. -/
def Field.final? (host : Host) (earlier : Answers) (cleaned : Value) (d : Field) :
    Except Fault Value :=
  match d.derivation with
  | some derivation => .ok (.int (earlier.get derivation.source).itemCount)
  | none =>
    if d.condition.isSome && !d.isShown host earlier then .ok d.type.emptyValue
    else if d.condition.isSome && d.isUnset cleaned && d.hasFallback then d.clean? host d.fallback
    else .ok cleaned

/-- The final answers of the fields to come, after those of the fields before them. -/
def onePass? (host : Host) (raw : Answers) : List Field → Answers → Except Fault Answers
  | [], earlier => .ok earlier
  | d :: rest, earlier => do
    let cleaned ← d.clean? host (raw.get d.name)
    let final ← d.final? host earlier cleaned
    onePass? host raw rest (earlier.set d.name final)

/-- Fields are listed **sources first** if none of them reads its own answer, or that of a field
listed after it. -/
def SourcesFirst (fields : List Field) : Prop :=
  (∀ d ∈ fields, d.name ∉ d.reads) ∧ fields.Pairwise fun d e => e.name ∉ d.reads

instance (fields : List Field) : Decidable (SourcesFirst fields) :=
  inferInstanceAs (Decidable (_ ∧ _))

section Pass

variable {host : Host} {fields : List Field} {d : Field} {a b earlier : Answers}

/-- Of fields that are listed sources first, the first one reads none. -/
theorem SourcesFirst.not_mem_reads {rest : List Field} (h : SourcesFirst (d :: rest)) :
    ∀ source ∈ d.reads, source ∉ fieldNames (d :: rest) := by
  intro source hread hmem
  rcases List.mem_cons.mp hmem with hself | hlater
  · exact h.1 d List.mem_cons_self (hself ▸ hread)
  · obtain ⟨e, he, hname⟩ := List.mem_map.mp hlater
    have hnot : e.name ∉ d.reads := (List.pairwise_cons.mp h.2).1 e he
    exact hnot (hname ▸ hread)

/-- Without their first one, fields are still listed sources first. -/
theorem SourcesFirst.tail {rest : List Field} (h : SourcesFirst (d :: rest)) :
    SourcesFirst rest :=
  ⟨fun e he => h.1 e (List.mem_cons_of_mem d he), (List.pairwise_cons.mp h.2).2⟩

/-- Fields that are listed sources first can be numbered so that each comes after what it reads. -/
theorem SourcesFirst.exists_rank (h : SourcesFirst fields) :
    ∃ rank : String → Nat, ∀ d ∈ fields, ∀ source ∈ d.reads, rank source < rank d.name := by
  induction fields with
  | nil => exact ⟨fun _ => 0, by simp⟩
  | cons d rest ih =>
    obtain ⟨rank, hrank⟩ := ih h.tail
    have hfresh := h.not_mem_reads
    -- the names of the rest move up by one, to make room for the first field below them
    refine ⟨fun name => if name ∈ fieldNames rest then rank name + 1
      else if name = d.name then 1 else 0, ?_⟩
    intro e he source hread
    rcases List.mem_cons.mp he with rfl | he
    · have hout : source ≠ e.name ∧ source ∉ fieldNames rest := by
        simpa [fieldNames] using hfresh source hread
      simp only [hout.1, hout.2, if_false, if_true]
      split <;> omega
    · have hmem : e.name ∈ fieldNames rest := List.mem_map_of_mem he
      have hlt := hrank e he source hread
      simp only [hmem, if_true]
      split
      · omega
      · split <;> omega

/-- Fields that are listed sources first are on no cycle. -/
theorem SourcesFirst.acyclic (h : SourcesFirst fields) : Acyclic fields := by
  obtain ⟨rank, hrank⟩ := h.exists_rank
  exact acyclic_of_rank rank hrank

/-- Fields that are listed sources first are in order. -/
theorem SourcesFirst.inOrder (h : SourcesFirst fields) : InOrder fields :=
  h.2.imp fun hnot hread => absurd hread hnot

/-- **One step of the one pass** makes of a field what the answers before it do, and what cleaning
has made of it where they have no say. -/
theorem Field.final?_eq (hengine : d.IsOfEngine)
    (hreads : ∀ source ∈ d.reads, (a.get source).Alike (earlier.get source)) :
    d.final? host earlier (a.get d.name) =
      (d.settled? host a).map fun o => o.getD (a.get d.name) := by
  have hshown : d.isShown host earlier = d.isShown host a :=
    (isShown_of_alike hengine hreads).symm
  unfold final? settled?
  rw [hshown, isShown?_eq_ok hengine.isWorded a]
  cases hderivation : d.derivation with
  | some derivation =>
    have hcount : (a.get derivation.source).itemCount =
        (earlier.get derivation.source).itemCount :=
      (hreads _ (by simp [reads, hderivation])).itemCount_eq
    exact congrArg (fun n : Nat => Except.ok (Value.int n)) hcount.symm
  | none =>
    cases hcond : d.condition with
    | none => rfl
    | some c =>
      cases hvisible : d.isShown host a with
      | false => rfl
      | true =>
        cases hfallback : d.hasFallback <;> cases hunset : d.isUnset (a.get d.name) <;>
          cases d.clean? host d.fallback <;> rfl

/-- What settling leaves in a field is like what the other answers make of it. -/
theorem Field.alike_of_settle {o : Option Value} {changed : Bool}
    (ho : d.settled? host a = .ok o) (h : d.settle host a = .ok (b, changed)) :
    (b.get d.name).Alike (o.getD (a.get d.name)) := by
  obtain ⟨o', ho', hget⟩ := get_of_settle h
  cases ho.symm.trans ho'
  rw [hget]
  cases o with
  | none => exact Value.Alike.refl _
  | some v =>
    rw [Option.filter_some]
    cases hsame : v.sameAs (a.get d.name) with
    | false => exact Value.Alike.refl _
    | true =>
      -- nothing is written, so what is there has to be like what would be written
      show (a.get d.name).Alike v
      cases settled?_eq_ok_iff.mp ho with
      | counted => exact .inl (((Value.isExact_int _).left _).mp hsame).symm
      | hidden => exact .inl ((d.type.isExact_emptyValue.left _).mp hsame).symm
      | filled _ _ _ hlacks =>
        exact Value.alike_of_sameAs hsame (Bool.and_eq_true_iff.mp hlacks).2

/-- A pass in place **keeps pace** with the one pass if the answers of the fields to come are still
what cleaning makes of the raw ones, and all others are alike in both. -/
structure KeepsPace (host : Host) (raw : Answers) (todo : List Field) (a earlier : Answers) :
    Prop where
  cleaned : ∀ d ∈ todo, d.clean? host (raw.get d.name) = .ok (a.get d.name)
  alike : ∀ name ∉ fieldNames todo, (a.get name).Alike (earlier.get name)

variable {raw : Answers} {rest todo : List Field}

/-- What the next field reads is alike in both passes. -/
theorem KeepsPace.alike_reads (h : KeepsPace host raw (d :: rest) a earlier)
    (horder : SourcesFirst (d :: rest)) :
    ∀ source ∈ d.reads, (a.get source).Alike (earlier.get source) :=
  fun source hread => h.alike source (horder.not_mem_reads source hread)

/-- Passes that keep pace still do when the next field has been settled. -/
theorem KeepsPace.step {between : Answers} {changed : Bool} {o : Option Value}
    (h : KeepsPace host raw (d :: rest) a earlier) (hunique : d.name ∉ fieldNames rest)
    (ho : d.settled? host a = .ok o) (hfirst : d.settle host a = .ok (between, changed)) :
    KeepsPace host raw rest between (earlier.set d.name (o.getD (a.get d.name))) := by
  have hkeep : ∀ {name}, name ≠ d.name → between.get name = a.get name :=
    Field.settle_get_of_ne hfirst
  constructor
  · intro e he
    have hne : e.name ≠ d.name := by
      intro heq
      exact hunique (heq ▸ List.mem_map_of_mem he)
    rw [hkeep hne]
    exact h.cleaned e (List.mem_cons_of_mem d he)
  · intro name hname
    rw [Answers.get_set]
    by_cases heq : d.name = name
    · subst heq
      rw [if_pos rfl]
      exact Field.alike_of_settle ho hfirst
    · rw [if_neg heq, hkeep (Ne.symm heq)]
      have hout : name ∉ fieldNames (d :: rest) := by
        intro hmem
        rcases List.mem_cons.mp hmem with rfl | hmem
        · exact heq rfl
        · exact hname hmem
      exact h.alike name hout

/-- The one pass makes the next field final, then the others. -/
theorem onePass?_cons (h : KeepsPace host raw (d :: rest) a earlier) (hengine : d.IsOfEngine)
    (horder : SourcesFirst (d :: rest)) :
    onePass? host raw (d :: rest) earlier = d.settled? host a >>= fun o =>
      onePass? host raw rest (earlier.set d.name (o.getD (a.get d.name))) := by
  have hclean := h.cleaned d List.mem_cons_self
  have hfinal : d.final? host earlier (a.get d.name) =
      (d.settled? host a).map fun o => o.getD (a.get d.name) :=
    Field.final?_eq hengine (h.alike_reads horder)
  show (d.clean? host (raw.get d.name)).bind _ = _
  rw [hclean]
  show (d.final? host earlier (a.get d.name)).bind _ = _
  rw [hfinal]
  cases d.settled? host a <;> rfl

/-- **A pass in place and the one pass.**  Where they keep pace over fields that are listed sources
first, they both fail or both end well, and give answers that are alike. -/
theorem settlePass_onePass? (h : KeepsPace host raw todo a earlier) (horder : SourcesFirst todo)
    (hnames : (fieldNames todo).Nodup) (hengine : ∀ d ∈ todo, d.IsOfEngine) :
    (∀ b changed, settlePass host a todo = .ok (b, changed) →
      ∃ t, onePass? host raw todo earlier = .ok t ∧
        ∀ name, (b.get name).Alike (t.get name)) ∧
    (∀ t, onePass? host raw todo earlier = .ok t →
      ∃ b changed, settlePass host a todo = .ok (b, changed)) := by
  induction todo generalizing a earlier with
  | nil =>
    constructor
    · intro b changed hpass
      cases hpass
      exact ⟨earlier, rfl, fun name => h.alike name (by simp [fieldNames])⟩
    · intro t _
      exact ⟨a, false, rfl⟩
  | cons d rest ih =>
    obtain ⟨hunique, hnames⟩ := List.nodup_cons.mp hnames
    obtain ⟨hd, hrest⟩ := List.forall_mem_cons.mp hengine
    rw [onePass?_cons h hd horder]
    constructor
    · intro b changed hpass
      obtain ⟨between, first, later, hfirst, hlater, -⟩ := settlePass_cons hpass
      obtain ⟨o, ho⟩ := Field.settled?_of_settle hfirst
      obtain ⟨hforward, -⟩ := ih (h.step hunique ho hfirst) horder.tail hnames hrest
      obtain ⟨t, ht, halike⟩ := hforward b later hlater
      refine ⟨t, ?_, halike⟩
      rw [ho]
      exact ht
    · intro t ht
      obtain ⟨o, ho, ht⟩ := exists_of_bind_eq_ok ht
      obtain ⟨between, first, hfirst⟩ := Field.exists_settle_of_settled? ho
      obtain ⟨-, hback⟩ := ih (h.step hunique ho hfirst) horder.tail hnames hrest
      obtain ⟨b, later, hlater⟩ := hback t ht
      exact ⟨b, _, settlePass_of_cons hfirst hlater⟩

/-- Where the one pass ends well, every answer can be cleaned. -/
theorem exists_clean?_of_onePass? {t : Answers} (h : onePass? host raw todo earlier = .ok t) :
    ∀ d ∈ todo, ∃ w, d.clean? host (raw.get d.name) = .ok w := by
  induction todo generalizing earlier with
  | nil => simp
  | cons d rest ih =>
    obtain ⟨cleaned, hclean, h⟩ := exists_of_bind_eq_ok h
    obtain ⟨final, -, h⟩ := exists_of_bind_eq_ok h
    exact List.forall_mem_cons.mpr ⟨⟨cleaned, hclean⟩, ih h⟩

/-- Where every answer can be cleaned, so can all of them. -/
theorem exists_cleanAll (h : ∀ d ∈ fields, ∃ w, d.clean? host (raw.get d.name) = .ok w) :
    ∃ cleaned, cleanAll host raw fields = .ok cleaned := by
  have hentry : ∀ d ∈ fields, ∃ e : String × Value, (do
      return (d.name, ← d.clean? host (raw.get d.name)) : Except Fault (String × Value)) =
        .ok e := by
    intro d hd
    obtain ⟨w, hw⟩ := h d hd
    exact ⟨(d.name, w), by rw [hw]; rfl⟩
  obtain ⟨entries, hentries⟩ := exists_mapM hentry
  exact ⟨Answers.ofEntries entries, by rw [cleanAll, hentries]; rfl⟩

/-- The one pass gives the answers of the fields, in their order. -/
theorem keys_onePass? {t : Answers} (hnames : (earlier.keys ++ fieldNames todo).Nodup)
    (h : onePass? host raw todo earlier = .ok t) : t.keys = earlier.keys ++ fieldNames todo := by
  induction todo generalizing earlier with
  | nil =>
    cases h
    simp [fieldNames]
  | cons d rest ih =>
    obtain ⟨cleaned, -, h⟩ := exists_of_bind_eq_ok h
    obtain ⟨final, -, h⟩ := exists_of_bind_eq_ok h
    have hnew : d.name ∉ earlier.keys := by
      intro hmem
      exact (List.nodup_append.mp hnames).2.2 _ hmem d.name (by simp [fieldNames]) rfl
    have hkeys : (earlier.set d.name final).keys ++ fieldNames rest =
        earlier.keys ++ fieldNames (d :: rest) := by
      rw [Answers.keys_set, if_neg hnew]
      simp [fieldNames]
    rw [ih (hkeys ▸ hnames) h, hkeys]

/-- **Where fields are listed sources first, one pass in place is all there is to do**: all later
ones find every field at rest. -/
theorem reconcile_eq_ok_iff (horder : SourcesFirst fields) (hnames : (fieldNames fields).Nodup)
    (hengine : ∀ d ∈ fields, d.IsOfEngine) :
    reconcile host fields a = .ok b ↔ ∃ changed, settlePass host a fields = .ok (b, changed) := by
  have honce : ∀ {between changed}, settlePass host a fields = .ok (between, changed) →
      reconcile host fields a = .ok between := by
    intro between changed hpass
    have hrest := atRest_of_inOrder horder.inOrder hnames
      (fun d hd => ⟨(hengine d hd).isLocal, horder.1 d hd⟩) hpass
    have hstill := settlePass_of_atRest fun d hd => (hrest d hd).1
    rw [reconcile_eq_runPasses, runPasses, hpass]
    exact runPasses_of_pass hstill fields.length
  constructor
  · intro h
    have hrun := h
    rw [reconcile_eq_runPasses] at hrun
    obtain ⟨between, changed, hpass, -⟩ := runPasses_succ hrun
    cases h.symm.trans (honce hpass)
    exact ⟨changed, hpass⟩
  · rintro ⟨changed, hpass⟩
    exact honce hpass

/-- At the start, with all answers cleaned and none of them final, the passes keep pace. -/
theorem keepsPace_of_cleanAll {cleaned : Answers} (hnames : (fieldNames fields).Nodup)
    (h : cleanAll host raw fields = .ok cleaned) :
    KeepsPace host raw fields cleaned Answers.empty := by
  have hmeets := meets_clean?_of_cleanAll hnames h
  refine ⟨hmeets.each, fun name hname => .inl ?_⟩
  rw [Answers.get_of_not_mem (by rwa [hmeets.keys])]
  rfl

/-- **A visible answer that is not unset is never altered**, nor is one that has no fallback to take
its place, unless the field is derived. -/
theorem get_of_sanitize_of_isShown (horder : SourcesFirst fields)
    (hnames : (fieldNames fields).Nodup) (hengine : ∀ d ∈ fields, d.IsOfEngine) {s : Answers}
    (h : sanitize host fields raw = .ok s) (hd : d ∈ fields) (hderivation : d.derivation = none)
    (hshown : d.isShown host s = true) {w : Value}
    (hclean : d.clean? host (raw.get d.name) = .ok w)
    (hkept : d.hasFallback = true → d.isUnset w = false) : s.get d.name = w := by
  cases hcond : d.condition with
  | none =>
    have hget := Field.clean?_get_of_sanitize hnames hd hcond hderivation h
    exact Except.ok.inj (hget.symm.trans hclean)
  | some c =>
    have hsome : d.condition.isSome = true := by rw [hcond]; rfl
    have hlocal : ∀ e ∈ fields, e.IsLocal host := fun e he => (hengine e he).isLocal
    have hacyclic := horder.acyclic
    have hnever := not_isEmptied_of_inOrder horder.inOrder hnames hacyclic hlocal h hd hshown
    obtain ⟨w', hclean', hfilled⟩ := Field.filled?_get_of_sanitize hnames hd hsome hderivation h
      (atRest_of_sanitize hnames hacyclic hlocal h d hd) hshown
    cases hclean.symm.trans hclean'
    have hfull : (d.hasFallback && d.isUnset w) = false := by
      cases hfallback : d.hasFallback with
      | false => rfl
      | true => exact hkept hfallback
    rcases hfilled with ⟨hemptied, -⟩ | ⟨-, hfilled⟩
    · exact absurd hemptied hnever
    · rw [Field.filled?, hfull] at hfilled
      exact (Except.ok.inj hfilled).symm

/-- **One pass is enough where fields are listed sources first.**  Let the fields of a form be of
the engine, with distinct names, each listed after those that it reads.

* Wherever raw answers are sanitized, the one pass ends well too.  The two give the same names in
  the same order, with values that are alike; and a visible answer that is not unset, or has no
  fallback, is just what cleaning makes of what was entered, unless the field is derived.
* Wherever the one pass ends well, the raw answers are sanitized. -/
theorem sanitize_onePass (horder : SourcesFirst fields) (hnames : (fieldNames fields).Nodup)
    (hengine : ∀ d ∈ fields, d.IsOfEngine) (raw : Answers) :
    (∀ s, sanitize host fields raw = .ok s →
      ∃ t, onePass? host raw fields Answers.empty = .ok t ∧ s.Alike t ∧
        ∀ d ∈ fields, d.derivation = none → d.isShown host s = true →
          ∀ w, d.clean? host (raw.get d.name) = .ok w →
            (d.hasFallback = true → d.isUnset w = false) → s.get d.name = w) ∧
    (∀ t, onePass? host raw fields Answers.empty = .ok t →
      ∃ s, sanitize host fields raw = .ok s) := by
  constructor
  · intro s h
    obtain ⟨cleaned, hcleaned, hreconcile⟩ := reconcile_of_sanitize h
    obtain ⟨changed, hpass⟩ := (reconcile_eq_ok_iff horder hnames hengine).mp hreconcile
    have hpace := keepsPace_of_cleanAll hnames hcleaned
    obtain ⟨t, ht, halike⟩ := (settlePass_onePass? hpace horder hnames hengine).1 s changed hpass
    have hfresh : (Answers.empty.keys ++ fieldNames fields).Nodup := hnames
    have hkeys : t.keys = fieldNames fields := keys_onePass? hfresh ht
    refine ⟨t, ht, ⟨(keys_of_sanitize hnames h).trans hkeys.symm, halike⟩, ?_⟩
    intro d hd hderivation hshown w hclean hkept
    exact get_of_sanitize_of_isShown horder hnames hengine h hd hderivation hshown hclean hkept
  · intro t ht
    obtain ⟨cleaned, hcleaned⟩ := exists_cleanAll (exists_clean?_of_onePass? ht)
    have hpace := keepsPace_of_cleanAll hnames hcleaned
    obtain ⟨s, changed, hpass⟩ := (settlePass_onePass? hpace horder hnames hengine).2 t ht
    have hreconcile := (reconcile_eq_ok_iff horder hnames hengine).mpr ⟨changed, hpass⟩
    exact ⟨s, by rw [sanitize, hcleaned]; exact hreconcile⟩

end Pass

/-- A form listed sources first: a box, a list that is asked for while it is ticked, the count of
the list, a remark on two items, and a share that is asked for while the box is ticked. -/
def shareForm : List Field :=
  [{ name := "listed", type := .checkbox },
   { name := "items", type := .multiSelect, fallback := .list [.text "new"],
     condition := some ⟨⟨"listed", .bool true⟩, false, none⟩ },
   { name := "count", type := .number, derivation := some ⟨"items"⟩ },
   { name := "remark", type := .text, condition := some ⟨⟨"count", .int 2⟩, false, none⟩ },
   { name := "share", type := .number, fallback := .float .zero,
     condition := some ⟨⟨"listed", .callable (.predicate .isTruthy ⟨.read 0, 4, .condition⟩)⟩,
       false, none⟩ }]

/-- A ticked box, a remark that there is no room for, and a share of minus zero. -/
def shareAnswers : Answers :=
  .ofEntries [("listed", .bool true), ("remark", .text "both"), ("share", .float (.zeroOf true))]

/-- The form with a share is sanitized in one pass.  A share of minus zero stays, where the one pass
has the zero of the fallback. -/
theorem sanitize_shareForm :
    ∃ s t, sanitize Host.none shareForm shareAnswers = .ok s ∧
      onePass? Host.none shareAnswers shareForm Answers.empty = .ok t ∧ s.Alike t ∧
      s.get "items" = .list [.text "new"] ∧ s.get "count" = .int 1 ∧ s.get "remark" = .text "" ∧
      s.get "share" = .float (.zeroOf true) ∧ t.get "share" = .float (.zeroOf false) := by
  have hsanitize : sanitize Host.none shareForm shareAnswers =
      .ok (.ofEntries [("listed", .bool true), ("items", .list [.text "new"]),
        ("count", .int 1), ("remark", .text ""), ("share", .float (.zeroOf true))]) := by cbv
  have honePass : onePass? Host.none shareAnswers shareForm Answers.empty =
      .ok (.ofEntries [("listed", .bool true), ("items", .list [.text "new"]),
        ("count", .int 1), ("remark", .text ""), ("share", .float (.zeroOf false))]) := by cbv
  have hengine : ∀ d ∈ shareForm, d.IsOfEngine := by
    intro d hd c hc
    simp only [shareForm, List.mem_cons, List.not_mem_nil, or_false] at hd
    rcases hd with rfl | rfl | rfl | rfl | rfl <;> cases hc <;> constructor <;> intro x hx <;>
      cases hx
    exact ⟨_, _, rfl⟩
  obtain ⟨hforward, -⟩ := sanitize_onePass (by decide) (by decide) hengine shareAnswers
  obtain ⟨t, ht, halike, -⟩ := hforward _ hsanitize
  cases honePass.symm.trans ht
  exact ⟨_, _, hsanitize, honePass, halike, rfl, rfl, rfl, rfl, rfl⟩

end Intake
