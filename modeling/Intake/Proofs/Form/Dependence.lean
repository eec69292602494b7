import Intake.Proofs.Form.Showing
import Mathlib.Data.Fintype.Card
import Mathlib.Data.Fintype.EquivFin
import Mathlib.Data.Fintype.Sets
import Mathlib.Logic.Relation
import Mathlib.Order.WellFounded

/-!
# Which answers have a say in a field

A field **reads** the names that its condition asks about and the name whose items it counts.
Reading draws a graph on the names of a form, an arrow to each field from every name that it
reads.  Where the graph has no cycle, fields can be settled one after the other.

A clause is **local** if all it looks at is the answer under its own name.  Literals are, and
so are the predicates of the engine; a function of the host may look further.

* `Acyclic` says that no arrows lead from a name back to it, and `acyclic_of_rank` shows it by
  numbering the names;
* `Field.isShown?_congr` says that a local field is shown alike under all answers that agree
  on what it reads;
* `Grounded` holds of a name that nothing circular and nothing that is not local has a say in,
  and `exists_ready` finds, whatever has been settled already, a grounded field that is next;
* `Acyclic.induction` goes from what is read to what reads it.
-/

namespace Intake

/-- The names that a condition asks about. -/
def Condition.reads (c : Condition) : List String :=
  c.clause.field :: c.second.toList.map Clause.field

/-- The names that a field reads: those its condition asks about, and the one it counts. -/
def Field.reads (d : Field) : List String :=
  d.condition.toList.flatMap Condition.reads ++ d.derivation.toList.map Derivation.source

/-- The answer under `source` has a say in the field named `target`. -/
def Feeds (fields : List Field) (source target : String) : Prop :=
  ∃ d ∈ fields, d.name = target ∧ source ∈ d.reads

/-- No answer has, by way of others, a say in its own field. -/
def Acyclic (fields : List Field) : Prop :=
  ∀ name, ¬ Relation.TransGen (Feeds fields) name name

variable {host : Host} {fields : List Field}

/-- Names that can be numbered so that every field comes after what it reads are on no cycle. -/
theorem acyclic_of_rank (rank : String → Nat)
    (hrank : ∀ d ∈ fields, ∀ source ∈ d.reads, rank source < rank d.name) :
    Acyclic fields := by
  have hrises : ∀ {source target},
      Relation.TransGen (Feeds fields) source target → rank source < rank target := by
    intro source target hpath
    induction hpath with
    | single hstep =>
      obtain ⟨d, hd, rfl, hread⟩ := hstep
      exact hrank d hd _ hread
    | tail _ hstep ih =>
      obtain ⟨d, hd, rfl, hread⟩ := hstep
      exact lt_trans ih (hrank d hd _ hread)
  intro name hcycle
  exact lt_irrefl _ (hrises hcycle)

/-- All that a clause looks at is the answer under its own name. -/
def Clause.IsLocal (host : Host) (c : Clause) : Prop :=
  ∀ f, c.expected = .callable f → ∀ value answers answers',
    f.holds? host value answers = f.holds? host value answers'

/-- All that the clauses of a field look at are the answers that the field reads. -/
def Field.IsLocal (host : Host) (d : Field) : Prop :=
  ∀ c ∈ d.condition, c.clause.IsLocal host ∧ ∀ second ∈ c.second, second.IsLocal host

/-- A clause with a literal is local. -/
theorem Clause.isLocal_of_literal {c : Clause} (hliteral : ∀ f, c.expected ≠ .callable f) :
    c.IsLocal host :=
  fun f hf => absurd hf (hliteral f)

/-- A clause with a predicate of the engine is local. -/
theorem Clause.isLocal_of_predicate {c : Clause} {p : Predicate Value} {identity : Identity}
    (hpredicate : c.expected = .callable (.predicate p identity)) : c.IsLocal host := by
  intro f hf value answers answers'
  rw [hpredicate] at hf
  cases hf
  rfl

/-- A local clause holds alike where its own answer is the same. -/
theorem Clause.holds?_congr {c : Clause} (hlocal : c.IsLocal host) {a b : Answers}
    (heq : a.get c.field = b.get c.field) : c.holds? host a = c.holds? host b := by
  unfold Clause.holds?
  split
  · rename_i f hf
    rw [hlocal f hf (a.get c.field) a b, heq]
  · rw [heq]

/-- A field reads the answers under the names of its clauses. -/
theorem Field.mem_reads_of_condition {d : Field} {c : Condition} (hc : c ∈ d.condition) :
    c.clause.field ∈ d.reads ∧ ∀ second ∈ c.second, second.field ∈ d.reads := by
  obtain hc : d.condition = some c := hc
  refine ⟨by simp [Field.reads, Condition.reads, hc], fun second hsecond => ?_⟩
  obtain hsecond : c.second = some second := hsecond
  simp [Field.reads, Condition.reads, hc, hsecond]

/-- A field is shown alike where its clauses hold alike. -/
theorem Field.isShown?_eq_of_clauses {d : Field} {a b : Answers}
    (h : ∀ c ∈ d.condition, c.clause.holds? host a = c.clause.holds? host b ∧
      ∀ second ∈ c.second, second.holds? host a = second.holds? host b) :
    d.isShown? host a = d.isShown? host b := by
  unfold Field.isShown?
  cases hcond : d.condition with
  | none => rfl
  | some c =>
    obtain ⟨hfirst, hsecond⟩ := h c hcond
    show c.holds? host a = c.holds? host b
    unfold Condition.holds?
    rw [hfirst]
    cases hsec : c.second with
    | none => rfl
    | some second => rw [Clause.allHold?, Clause.allHold?, hsecond second hsec]

/-- A local field is shown alike where the answers that it reads are the same. -/
theorem Field.isShown?_congr {d : Field} (hlocal : d.IsLocal host) {a b : Answers}
    (heq : ∀ source ∈ d.reads, a.get source = b.get source) :
    d.isShown? host a = d.isShown? host b := by
  refine isShown?_eq_of_clauses fun c hc => ?_
  obtain ⟨hfirst, hsecond⟩ := hlocal c hc
  obtain ⟨hread, hreads⟩ := mem_reads_of_condition hc
  exact ⟨Clause.holds?_congr hfirst (heq _ hread),
    fun second hmem => Clause.holds?_congr (hsecond second hmem) (heq _ (hreads second hmem))⟩

theorem Field.isShown_congr {d : Field} (hlocal : d.IsLocal host) {a b : Answers}
    (heq : ∀ source ∈ d.reads, a.get source = b.get source) :
    d.isShown host a = d.isShown host b :=
  congrArg saidYes (isShown?_congr hlocal heq)

/-- A name is **grounded** if no name that has a say in it, near or far, itself included, is on
a cycle or is that of a field which looks further than it reads. -/
def Grounded (host : Host) (fields : List Field) (name : String) : Prop :=
  ∀ source, Relation.ReflTransGen (Feeds fields) source name →
    ¬ Relation.TransGen (Feeds fields) source source ∧
      ∀ d ∈ fields, d.name = source → d.IsLocal host

/-- In an acyclic form of local fields every name is grounded. -/
theorem Acyclic.grounded (hacyclic : Acyclic fields) (hlocal : ∀ d ∈ fields, d.IsLocal host)
    (name : String) : Grounded host fields name :=
  fun source _ => ⟨hacyclic source, fun d hd _ => hlocal d hd⟩

/-- A grounded field is local. -/
theorem Grounded.isLocal {d : Field} (h : Grounded host fields d.name) (hd : d ∈ fields) :
    d.IsLocal host :=
  (h d.name .refl).2 d hd rfl

/-- A grounded field does not read its own answer. -/
theorem Grounded.not_mem_reads {d : Field} (h : Grounded host fields d.name)
    (hd : d ∈ fields) : d.name ∉ d.reads := by
  intro hself
  exact (h d.name .refl).1 (.single ⟨d, hd, rfl, hself⟩)

/-- What a grounded field reads is grounded. -/
theorem Grounded.of_mem_reads {d : Field} (h : Grounded host fields d.name) (hd : d ∈ fields)
    {source : String} (hread : source ∈ d.reads) : Grounded host fields source :=
  fun far hfar => h far (hfar.tail ⟨d, hd, rfl, hread⟩)

/-- A field is **ready** once every field that it reads is among the settled ones. -/
def Field.IsReady (fields : List Field) (settled : List String) (d : Field) : Prop :=
  ∀ source ∈ d.reads, source ∈ fieldNames fields → source ∈ settled

/-- **There is always a next field.**  Unless all grounded fields are settled, one of those that
are not reads nothing but settled ones. -/
theorem exists_ready {settled : List String}
    (hopen : ∃ name ∈ fieldNames fields, Grounded host fields name ∧ name ∉ settled) :
    ∃ d ∈ fields, Grounded host fields d.name ∧ d.name ∉ settled ∧
      d.IsReady fields settled := by
  let Name := { name : String // name ∈ fieldNames fields ∧ Grounded host fields name }
  let before : Name → Name → Prop := fun a b => Relation.TransGen (Feeds fields) a.1 b.1
  have : Finite { name : String // name ∈ fieldNames fields } := inferInstance
  have : Finite Name := Finite.of_injective
    (fun a => (⟨a.1, a.2.1⟩ : { name : String // name ∈ fieldNames fields }))
    (fun _ _ heq => Subtype.ext (Subtype.mk.inj heq))
  have : IsTrans Name before := ⟨fun _ _ _ hab hbc => hab.trans hbc⟩
  have : Std.Irrefl before := ⟨fun a => (a.2.2 a.1 .refl).1⟩
  have hwf : WellFounded before := Finite.wellFounded_of_trans_of_irrefl before
  obtain ⟨name, hname, hgrounded, hunsettled⟩ := hopen
  -- the first of the names that are not settled, in any order along the arrows
  obtain ⟨⟨first, hfirst, hfirstGrounded⟩, hfirstOpen, hleast⟩ :=
    hwf.has_min { a : Name | a.1 ∉ settled } ⟨⟨name, hname, hgrounded⟩, hunsettled⟩
  obtain ⟨d, hd, rfl⟩ := List.mem_map.mp hfirst
  refine ⟨d, hd, hfirstGrounded, hfirstOpen, ?_⟩
  intro source hread hsource
  by_contra hlate
  exact hleast ⟨source, hsource, hfirstGrounded.of_mem_reads hd hread⟩ hlate
    (.single ⟨d, hd, rfl, hread⟩)

/-- **From what is read to what reads it.**  In an acyclic form of local fields, whatever holds of
names that no field has, and of every field if it holds of what the field reads, holds of all
names. -/
theorem Acyclic.induction {P : String → Prop} (hacyclic : Acyclic fields)
    (hlocal : ∀ d ∈ fields, d.IsLocal host) (hother : ∀ name ∉ fieldNames fields, P name)
    (hfield : ∀ d ∈ fields, (∀ source ∈ d.reads, P source) → P d.name) (name : String) :
    P name := by
  classical
  by_contra hname
  have hmem : name ∈ fieldNames fields := by
    by_contra hout
    exact hname (hother name hout)
  have hopen : ∃ name ∈ fieldNames fields, Grounded host fields name ∧
      name ∉ (fieldNames fields).filter (fun n => decide (P n)) :=
    ⟨name, hmem, hacyclic.grounded hlocal name, by simp [hname]⟩
  -- the first name, along the arrows, of which it does not hold
  obtain ⟨d, hd, -, hdopen, hready⟩ := exists_ready hopen
  refine hdopen (List.mem_filter.mpr ⟨List.mem_map_of_mem hd, decide_eq_true ?_⟩)
  refine hfield d hd fun source hread => ?_
  by_cases hsource : source ∈ fieldNames fields
  · exact of_decide_eq_true (List.mem_filter.mp (hready source hread hsource)).2
  · exact hother source hsource

end Intake
