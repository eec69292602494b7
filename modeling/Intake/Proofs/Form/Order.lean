import Intake.Proofs.Form.Emptying

/-!
# The order in which fields are listed

Sanitized answers of an acyclic form are at rest, in whatever order its fields are listed.  So where
two orders give different answers, it is because a field that is visible in the end was found hidden
on the way in one of them, at answers that were about to change, and lost its entry there.  A field
is found hidden like this only if it is listed before a field that it reads, and that depends on
others itself.

* `get_congr_of_sanitize` compares one field in two orders;
* `InOrder` says of a list that no field comes before one that it reads, unless that depends on no
  other; `not_isEmptied_of_inOrder` says that then no visible field has been emptied;
* `sanitize_perm_iff` says exactly when two orders give the same answers, and `entry_lost` shows two
  that do not.
-/

namespace Intake

/-- A field is **free** if it depends on no other: it has no condition and is not derived. -/
def Field.IsFree (d : Field) : Prop := d.condition = none ∧ d.derivation = none

instance (d : Field) : Decidable d.IsFree := inferInstanceAs (Decidable (_ ∧ _))

/-- Fields are **in order** if none comes before one that it reads, unless that is free. -/
def InOrder (fields : List Field) : Prop :=
  fields.Pairwise fun d e => e.name ∈ d.reads → e.IsFree

instance (fields : List Field) : Decidable (InOrder fields) :=
  inferInstanceAs (Decidable (List.Pairwise _ _))

/-- A field has an **entry** in raw answers if a visible field makes something else of what was
entered than of the empty value. -/
def Field.HasEntry (host : Host) (raw : Answers) (d : Field) : Prop :=
  ∀ w, d.clean? host (raw.get d.name) = .ok w →
    d.filled? host w ≠ d.filled? host d.type.emptyValue

/-! ## Fields in order -/

section InOrder

variable {host : Host} {fields : List Field} {d : Field} {a b : Answers}

/-- Settling a free field changes nothing. -/
theorem Field.IsFree.settle (h : d.IsFree) (a : Answers) : d.settle host a = .ok (a, false) := by
  refine settle_of_none ?_
  rw [settled?, h.2, h.1]
  rfl

/-- A pass changes no answers of free fields, or of names that it does not come to. -/
theorem settlePass_get_of_isFree {todo : List Field} {changed : Bool} {name : String}
    (hfree : ∀ e ∈ todo, e.name = name → e.IsFree)
    (h : settlePass host a todo = .ok (b, changed)) : b.get name = a.get name := by
  induction todo generalizing a changed with
  | nil =>
    cases h
    rfl
  | cons e rest ih =>
    obtain ⟨between, first, later, hfirst, hlater, -⟩ := settlePass_cons h
    obtain ⟨he, hrest⟩ := List.forall_mem_cons.mp hfree
    rw [ih hrest hlater]
    by_cases hname : e.name = name
    · rw [(he hname).settle a] at hfirst
      cases hfirst
      rfl
    · exact Field.settle_get_of_ne hfirst (Ne.symm hname)

/-- **One pass is enough for fields in order.**  After it they are at rest, and each was settled at
answers at which it is shown just if it is shown after the pass. -/
theorem atRest_of_inOrder {todo : List Field} {changed : Bool} (horder : InOrder todo)
    (hnames : (fieldNames todo).Nodup)
    (hlocal : ∀ d ∈ todo, d.IsLocal host ∧ d.name ∉ d.reads)
    (h : settlePass host a todo = .ok (b, changed)) :
    ∀ d ∈ todo, d.AtRest host b ∧
      ∀ moment, IsSettledAt host d moment todo a → d.isShown host moment = d.isShown host b := by
  induction todo generalizing a changed with
  | nil => simp
  | cons e rest ih =>
    obtain ⟨between, first, later, hfirst, hlater, -⟩ := settlePass_cons h
    obtain ⟨hfree, horder⟩ := List.pairwise_cons.mp horder
    obtain ⟨hunique, hnames⟩ := List.nodup_cons.mp hnames
    obtain ⟨⟨helocal, hself⟩, hrestlocal⟩ := List.forall_mem_cons.mp hlocal
    have hone : ∀ {d moment}, IsSettledAt host d moment (e :: rest) a →
        (e = d ∧ moment = a) ∨ (d ∈ rest ∧ IsSettledAt host d moment rest between) :=
      fun hmoment => ((isSettledAt_cons_iff hfirst).mp hmoment).imp_right
        fun hlater => ⟨hlater.mem, hlater⟩
    refine List.forall_mem_cons.mpr ⟨⟨?_, fun moment hmoment => ?_⟩, fun d hd => ?_⟩
    · -- neither the field nor what it reads is written in the rest of the pass
      have hreads : ∀ source ∈ e.reads, between.get source = b.get source := by
        intro source hread
        refine (settlePass_get_of_isFree ?_ hlater).symm
        rintro f hf rfl
        exact hfree f hf hread
      exact Field.atRest_congr helocal hreads (settlePass_get hlater hunique).symm
        (Field.atRest_of_settle helocal hself hfirst)
    · rcases hone hmoment with ⟨-, rfl⟩ | ⟨hmem, -⟩
      · refine Field.isShown_congr helocal fun source hread => ?_
        have hne : source ≠ e.name := fun heq => hself (heq ▸ hread)
        rw [← Field.settle_get_of_ne hfirst hne]
        refine (settlePass_get_of_isFree ?_ hlater).symm
        rintro f hf rfl
        exact hfree f hf hread
      · exact absurd (List.mem_map_of_mem hmem) hunique
    · obtain ⟨hrest, hshown⟩ := ih horder hnames hrestlocal hlater d hd
      refine ⟨hrest, fun moment hmoment => ?_⟩
      rcases hone hmoment with ⟨rfl, -⟩ | ⟨-, hmoment⟩
      · exact absurd (List.mem_map_of_mem hd) hunique
      · exact hshown moment hmoment

/-- Where all fields are at rest, they are settled at the answers that there are. -/
theorem IsSettledAt.eq_of_atRest {todo : List Field} {moment : Answers}
    (h : IsSettledAt host d moment todo a) (hrest : ∀ e ∈ todo, e.AtRest host a) : moment = a := by
  induction h with
  | now => rfl
  | later hstep _ ih =>
    obtain ⟨he, hrest⟩ := List.forall_mem_cons.mp hrest
    cases (Field.atRest_iff_settle.mp he).symm.trans hstep
    exact ih hrest

/-- Where all fields are at rest, the first pass is the last. -/
theorem IsSettledDuring.eq_of_atRest {passes : Nat} {moment : Answers}
    (h : IsSettledDuring host fields d moment passes a) (hrest : ∀ e ∈ fields, e.AtRest host a) :
    moment = a := by
  cases h with
  | first h => exact h.eq_of_atRest hrest
  | later hpass => cases (settlePass_of_atRest hrest).symm.trans hpass

/-- **Where fields are in order, no field that is visible in the end has been emptied.** -/
theorem not_isEmptied_of_inOrder (horder : InOrder fields) (hnames : (fieldNames fields).Nodup)
    (hacyclic : Acyclic fields) (hlocal : ∀ d ∈ fields, d.IsLocal host) {raw s : Answers}
    (h : sanitize host fields raw = .ok s) (hd : d ∈ fields) (hshown : d.isShown host s = true) :
    ¬ d.IsEmptied host fields raw := by
  rintro ⟨cleaned, moment, hcleaned, hmoment, hhidden⟩
  obtain ⟨cleaned', hcleaned', hreconcile⟩ := reconcile_of_sanitize h
  cases hcleaned.symm.trans hcleaned'
  rw [reconcile_eq_runPasses] at hreconcile
  obtain ⟨between, changed, hpass, hlater⟩ := runPasses_succ hreconcile
  have hfirst := atRest_of_inOrder horder hnames (fun e he =>
    ⟨hlocal e he, (hacyclic.grounded hlocal e.name).not_mem_reads he⟩) hpass
  have hrest : ∀ e ∈ fields, e.AtRest host between := fun e he => (hfirst e he).1
  rw [runPasses_of_pass (settlePass_of_atRest hrest)] at hlater
  obtain rfl : between = s := Except.ok.inj hlater
  have hsame : d.isShown host moment = d.isShown host between := by
    cases hmoment with
    | first hmoment => exact (hfirst d hd).2 moment hmoment
    | later hpass' hmoment =>
      cases hpass.symm.trans hpass'
      rw [hmoment.eq_of_atRest hrest]
  cases hhidden.symm.trans (hsame.trans hshown)

end InOrder

/-! ## Two orders -/

section Perm

variable {host : Host} {fields fields' : List Field}

/-- The order of the fields does not change what they read. -/
theorem Acyclic.perm (hacyclic : Acyclic fields) (hperm : fields.Perm fields') :
    Acyclic fields' := by
  have hfeeds : Feeds fields' = Feeds fields := by
    funext source target
    exact propext (exists_congr fun d => and_congr_left fun _ => hperm.symm.mem_iff)
  rw [Acyclic, hfeeds]
  exact hacyclic

/-- Sanitized answers of an acyclic form of local fields are at rest. -/
theorem atRest_of_sanitize (hnames : (fieldNames fields).Nodup) (hacyclic : Acyclic fields)
    (hlocal : ∀ d ∈ fields, d.IsLocal host) {raw s : Answers}
    (h : sanitize host fields raw = .ok s) : ∀ d ∈ fields, d.AtRest host s := by
  obtain ⟨cleaned, -, hreconcile⟩ := reconcile_of_sanitize h
  exact fun d hd => atRest_of_reconcile hnames hreconcile d hd (hacyclic.grounded hlocal d.name)

/-- A visible field holds the same in two orders if it has been emptied in both or in neither, and
also if it has no entry: nothing is lost with it then. -/
theorem Field.eq_of_filled? {d : Field} {raw : Answers} {emptied emptied' : Prop} {w v v' : Value}
    (hw : d.clean? host (raw.get d.name) = .ok w)
    (h : (emptied ∧ d.filled? host d.type.emptyValue = .ok v) ∨
      (¬ emptied ∧ d.filled? host w = .ok v))
    (h' : (emptied' ∧ d.filled? host d.type.emptyValue = .ok v') ∨
      (¬ emptied' ∧ d.filled? host w = .ok v'))
    (hentry : d.HasEntry host raw → (emptied ↔ emptied')) : v = v' := by
  by_cases hhas : d.HasEntry host raw
  · have hiff := hentry hhas
    rcases h with ⟨hemptied, hv⟩ | ⟨hkept, hv⟩ <;> rcases h' with ⟨hemptied', hv'⟩ | ⟨hkept', hv'⟩
    · exact Except.ok.inj (hv.symm.trans hv')
    · exact absurd (hiff.mp hemptied) hkept'
    · exact absurd (hiff.mpr hemptied') hkept
    · exact Except.ok.inj (hv.symm.trans hv')
  · have hsame : d.filled? host w = d.filled? host d.type.emptyValue := by
      by_contra hne
      refine hhas fun v hv => ?_
      cases hw.symm.trans hv
      exact hne
    rw [hsame] at h h'
    have hv := h.elim And.right And.right
    have hv' := h'.elim And.right And.right
    exact Except.ok.inj (hv.symm.trans hv')

/-- **One field in two orders.**  Where what it reads has come out alike, a field comes out alike,
unless it is visible, has an entry, and has been emptied in one order and not in the other. -/
theorem get_congr_of_sanitize (hnames : (fieldNames fields).Nodup) (hperm : fields.Perm fields')
    (hacyclic : Acyclic fields) (hlocal : ∀ d ∈ fields, d.IsLocal host) {raw s s' : Answers}
    (h : sanitize host fields raw = .ok s) (h' : sanitize host fields' raw = .ok s') {d : Field}
    (hd : d ∈ fields) (hreads : ∀ source ∈ d.reads, s.get source = s'.get source)
    (hentry : d.condition.isSome = true → d.derivation = none → d.isShown host s = true →
      d.HasEntry host raw → (d.IsEmptied host fields raw ↔ d.IsEmptied host fields' raw)) :
    s.get d.name = s'.get d.name := by
  have hd' : d ∈ fields' := hperm.mem_iff.mp hd
  have hnames' : (fieldNames fields').Nodup := (hperm.map Field.name).nodup_iff.mp hnames
  have hrest := atRest_of_sanitize hnames hacyclic hlocal h d hd
  have hrest' := atRest_of_sanitize hnames' (hacyclic.perm hperm)
    (fun e he => hlocal e (hperm.mem_iff.mpr he)) h' d hd'
  have hshown : d.isShown host s = d.isShown host s' := Field.isShown_congr (hlocal d hd) hreads
  cases hderivation : d.derivation with
  | some derivation =>
    rw [hrest.get_of_derivation hderivation, hrest'.get_of_derivation hderivation,
      hreads derivation.source (by simp [Field.reads, hderivation])]
  | none =>
    cases hcond : d.condition with
    | none =>
      have hclean := Field.clean?_get_of_sanitize hnames hd hcond hderivation h
      have hclean' := Field.clean?_get_of_sanitize hnames' hd' hcond hderivation h'
      exact Except.ok.inj (hclean.symm.trans hclean')
    | some condition =>
      have hsome : d.condition.isSome = true := by rw [hcond]; rfl
      cases hvisible : d.isShown host s with
      | false =>
        rw [hrest.get_of_hidden hderivation hvisible,
          hrest'.get_of_hidden hderivation (hshown ▸ hvisible)]
      | true =>
        obtain ⟨w, hw, hfilled⟩ := Field.filled?_get_of_sanitize hnames hd hsome hderivation h
          hrest hvisible
        obtain ⟨w', hw', hfilled'⟩ := Field.filled?_get_of_sanitize hnames' hd' hsome hderivation
          h' hrest' (hshown ▸ hvisible)
        cases hw.symm.trans hw'
        exact Field.eq_of_filled? hw hfilled hfilled' (hentry hsome hderivation hvisible)

/-- **When the order of the fields does not matter.**  Let a form be acyclic, its names distinct and
its fields local, and let raw answers be sanitized in two orders of its fields.

* The results hold the same for every name exactly if, of the fields with a condition that have an
  entry, are not derived and are visible in both results, the same have been emptied on the way.
* If the fields are in order both times, none of these has been, and the results are the same. -/
theorem sanitize_perm_iff (hnames : (fieldNames fields).Nodup) (hacyclic : Acyclic fields)
    (hlocal : ∀ d ∈ fields, d.IsLocal host) (hperm : fields.Perm fields') {raw s s' : Answers}
    (h : sanitize host fields raw = .ok s) (h' : sanitize host fields' raw = .ok s') :
    ((∀ name, s.get name = s'.get name) ↔
      ∀ d ∈ fields, d.condition.isSome = true → d.derivation = none → d.HasEntry host raw →
        d.isShown host s = true → d.isShown host s' = true →
          (d.IsEmptied host fields raw ↔ d.IsEmptied host fields' raw)) ∧
    (InOrder fields → InOrder fields' → ∀ name, s.get name = s'.get name) := by
  have hnames' : (fieldNames fields').Nodup := (hperm.map Field.name).nodup_iff.mp hnames
  have hacyclic' := hacyclic.perm hperm
  have hlocal' : ∀ d ∈ fields', d.IsLocal host := fun d hd => hlocal d (hperm.mem_iff.mpr hd)
  have hagree : (∀ d ∈ fields, d.condition.isSome = true → d.derivation = none →
      d.HasEntry host raw → d.isShown host s = true → d.isShown host s' = true →
        (d.IsEmptied host fields raw ↔ d.IsEmptied host fields' raw)) →
      ∀ name, s.get name = s'.get name := by
    intro hentries
    refine hacyclic.induction hlocal ?_ ?_
    · intro name hname
      have hname' : name ∉ fieldNames fields' :=
        fun hmem => hname ((hperm.map Field.name).mem_iff.mpr hmem)
      rw [Answers.get_of_not_mem (by rwa [keys_of_sanitize hnames h]),
        Answers.get_of_not_mem (by rwa [keys_of_sanitize hnames' h'])]
    · intro d hd hreads
      have hshown := Field.isShown_congr (hlocal d hd) hreads
      exact get_congr_of_sanitize hnames hperm hacyclic hlocal h h' hd hreads
        fun hcond hderivation hvisible hentry =>
          hentries d hd hcond hderivation hentry hvisible (hshown ▸ hvisible)
  refine ⟨⟨fun hsame d hd hcond hderivation hentry hshown hshown' => ?_, hagree⟩, ?_⟩
  · have hd' : d ∈ fields' := hperm.mem_iff.mp hd
    obtain ⟨w, hw, hfilled⟩ := Field.filled?_get_of_sanitize hnames hd hcond hderivation h
      (atRest_of_sanitize hnames hacyclic hlocal h d hd) hshown
    obtain ⟨w', hw', hfilled'⟩ := Field.filled?_get_of_sanitize hnames' hd' hcond hderivation h'
      (atRest_of_sanitize hnames' hacyclic' hlocal' h' d hd') hshown'
    cases hw.symm.trans hw'
    rw [← hsame d.name] at hfilled'
    rcases hfilled with ⟨hemptied, hv⟩ | ⟨hkept, hv⟩ <;>
      rcases hfilled' with ⟨hemptied', hv'⟩ | ⟨hkept', hv'⟩
    · exact iff_of_true hemptied hemptied'
    · exact absurd (hv'.trans hv.symm) (hentry w hw)
    · exact absurd (hv.trans hv'.symm) (hentry w hw)
    · exact iff_of_false hkept hkept'
  · intro horder horder'
    refine hagree fun d hd _ _ _ hshown hshown' => iff_of_false ?_ ?_
    · exact not_isEmptied_of_inOrder horder hnames hacyclic hlocal h hd hshown
    · exact not_isEmptied_of_inOrder horder' hnames' hacyclic' hlocal' h' (hperm.mem_iff.mp hd)
        hshown'

end Perm

/-- A list of items. -/
def itemsField : Field := { name := "items", type := .multiSelect }

/-- The number of items. -/
def countField : Field := { name := "count", type := .number, derivation := some ⟨"items"⟩ }

/-- A detail that is asked for if there is one item. -/
def detailField : Field :=
  { name := "detail", type := .text, condition := some ⟨⟨"count", .int 1⟩, false, none⟩ }

/-- A detail about one item. -/
def oneDetail : Answers := .ofEntries [("items", .list [.text "a"]), ("detail", .text "b")]

/-- The fields for items and a detail are on no cycle, in any order. -/
theorem acyclic_detail {fields : List Field}
    (h : fields.Perm [itemsField, countField, detailField]) : Acyclic fields := by
  refine Acyclic.perm (acyclic_of_rank (fun name =>
    if name = "items" then 0 else if name = "count" then 1 else 2) ?_) h.symm
  decide

/-- The fields for items and a detail are local. -/
theorem isLocal_detail : ∀ d ∈ [itemsField, countField, detailField], d.IsLocal Host.none := by
  intro d hd c hc
  simp only [List.mem_cons, List.not_mem_nil, or_false] at hd
  rcases hd with rfl | rfl | rfl <;> cases hc
  exact ⟨Clause.isLocal_of_literal nofun, nofun⟩

/-- With the detail listed last it is kept, whether the items or their count are listed first. -/
theorem sanitize_perm_detail :
    ∃ s s', sanitize Host.none [itemsField, countField, detailField] oneDetail = .ok s ∧
      sanitize Host.none [countField, itemsField, detailField] oneDetail = .ok s' ∧
      s.get "detail" = .text "b" ∧ ∀ name, s.get name = s'.get name := by
  have h : sanitize Host.none [itemsField, countField, detailField] oneDetail = .ok (.ofEntries
      [("items", .list [.text "a"]), ("count", .int 1), ("detail", .text "b")]) := by cbv
  have h' : sanitize Host.none [countField, itemsField, detailField] oneDetail = .ok (.ofEntries
      [("count", .int 1), ("items", .list [.text "a"]), ("detail", .text "b")]) := by cbv
  exact ⟨_, _, h, h', rfl, (sanitize_perm_iff (by decide) (acyclic_detail (.refl _))
    isLocal_detail (.swap _ _ _) h h').2 (by decide) (by decide)⟩

/-- **An entry can be lost to the order of the fields**, in a form that a strict lint accepts: with
the detail listed first it is settled before there is a count, is hidden, and is empty in the end,
though it is visible. -/
theorem entry_lost :
    checkFields true [detailField, countField, itemsField] = .ok [] ∧
    checkFields true [itemsField, countField, detailField] = .ok [] ∧
    Acyclic [detailField, countField, itemsField] ∧
    [detailField, countField, itemsField].Perm [itemsField, countField, detailField] ∧
    (∀ d ∈ [itemsField, countField, detailField], d.IsLocal Host.none) ∧
    ∃ s s', sanitize Host.none [detailField, countField, itemsField] oneDetail = .ok s ∧
      sanitize Host.none [itemsField, countField, detailField] oneDetail = .ok s' ∧
      detailField.isShown Host.none s = true ∧
      s.get "detail" = .text "" ∧ s'.get "detail" = .text "b" := by
  have hperm : [detailField, countField, itemsField].Perm [itemsField, countField, detailField] :=
    List.reverse_perm [itemsField, countField, detailField]
  refine ⟨by rfl, by rfl, acyclic_detail hperm, hperm, isLocal_detail,
    .ofEntries [("detail", .text ""), ("count", .int 1), ("items", .list [.text "a"])],
    .ofEntries [("items", .list [.text "a"]), ("count", .int 1), ("detail", .text "b")],
    by cbv, by cbv, by cbv, rfl, rfl⟩

end Intake
