import Intake.Proofs.Definition.Naming
import Intake.Proofs.Fault

/-!
# What loading goes through

The fields of a form are resolved one after another, and in each field a few things are looked up or
written out, always in the same order.  These are its **sites**.  Resolving stops at the first site
that is not passed; what is written there is refused, or it trips loading.

* `Site.Passes` and `Site.Trips` say of a site, by what is written there, what becomes of it;
* `GoesThrough` says that a step of loading gives a result exactly if all of some sites are passed,
  and escapes exactly if the first one that is not passed trips it;
* `GoesThrough.bind` and `GoesThrough.mapM` put steps together;
* `goesThrough_clause` and `goesThrough_rule` are about the steps that look something up.
-/

namespace Intake

/-! ## Sites -/

/-- The places in the data of fields where something is looked up or written out. -/
inductive Site where
  | noRecord
  | name (v : Value)
  | clause (written : List (Value × Value))
  | rule (named : List (Value × Value))
  | cleaner (word : String)

namespace Site

/-- A site is **passed** if it names what there is. -/
def Passes : Site → Prop
  | .noRecord => False
  | .name v => ¬ v.HasLongInteger
  | .clause written => ∀ named, recordAt? "value" written = some named →
      ∀ name, Value.lookupEntry (.text "predicate") named = some name →
        ∃ p, NamesPredicate named p ∧ ¬ p.IsLong
  | .rule named => ∃ maker parameter, NamesRule named maker parameter ∧
      ¬ maker.Trips parameter (ruleMessage named)
  | .cleaner word => ∃ c, Cleaner.ofName? word = some c

/-- A site **trips** loading if what is written there can neither be looked up nor refused. -/
def Trips : Site → Prop
  | .noRecord => False
  | .name v => v.HasLongInteger
  | .clause written => ∃ named, recordAt? "value" written = some named ∧
      ∃ name, Value.lookupEntry (.text "predicate") named = some name ∧
        (name.IsNoName ∨ ∃ p, NamesPredicate named p ∧ p.IsLong)
  | .rule named => (∃ name, Value.lookupEntry (.text "rule") named = some name ∧ name.IsNoName) ∨
      ∃ maker parameter, NamesRule named maker parameter ∧
        maker.Trips parameter (ruleMessage named)
  | .cleaner _ => False

/-- Of some sites the first one that is not passed **trips** loading. -/
def FirstTrips : List Site → Prop
  | [] => False
  | site :: rest => site.Trips ∨ site.Passes ∧ FirstTrips rest

/-- Of two lists of sites the second one only counts if all of the first one are passed. -/
theorem firstTrips_append (sites later : List Site) : FirstTrips (sites ++ later) ↔
    FirstTrips sites ∨ (∀ site ∈ sites, site.Passes) ∧ FirstTrips later := by
  induction sites with
  | nil => simp [FirstTrips]
  | cons site rest ih =>
    simp only [List.cons_append, FirstTrips, ih, List.forall_mem_cons]
    tauto

end Site

/-- Loading **goes through** sites if it gives a result exactly if all of them are passed, and
escapes exactly if the first one that is not passed trips it. -/
structure GoesThrough {α : Type} (x : Load α) (sites : List Site) : Prop where
  returns : (∃ a, x = .ok a) ↔ ∀ site ∈ sites, site.Passes
  escapes : Escapes x ↔ Site.FirstTrips sites

namespace GoesThrough

variable {α β : Type} {x : Load α} {sites later : List Site}

theorem ok (a : α) : GoesThrough (.ok a : Load α) [] :=
  ⟨iff_of_true ⟨a, rfl⟩ (by simp), iff_of_false (not_escapes_ok a) id⟩

/-- One step after another goes through the sites of both. -/
theorem bind {f : α → Load β} (h : GoesThrough x sites)
    (hf : ∀ a, x = .ok a → GoesThrough (f a) later) : GoesThrough (x >>= f) (sites ++ later) := by
  constructor
  · rw [List.forall_mem_append, ← h.returns]
    constructor
    · rintro ⟨b, hb⟩
      obtain ⟨a, ha, hb⟩ := exists_of_bind_eq_ok hb
      exact ⟨⟨a, ha⟩, (hf a ha).returns.mp ⟨b, hb⟩⟩
    · rintro ⟨⟨a, ha⟩, hlater⟩
      rw [ha]
      exact (hf a ha).returns.mpr hlater
  · rw [escapes_bind, Site.firstTrips_append, ← h.escapes, ← h.returns]
    refine or_congr_right ⟨?_, ?_⟩
    · rintro ⟨a, ha, hescapes⟩
      exact ⟨⟨a, ha⟩, (hf a ha).escapes.mp hescapes⟩
    · rintro ⟨⟨a, ha⟩, htrips⟩
      exact ⟨a, ha, (hf a ha).escapes.mpr htrips⟩

/-- What a result is changed into does not matter. -/
theorem map (h : GoesThrough x sites) (f : α → β) :
    GoesThrough (x >>= fun a => pure (f a)) sites := by
  have hbind := h.bind fun a _ => ok (f a)
  rwa [List.append_nil] at hbind

/-- Going through a list is going through its items, one after another. -/
theorem mapM {f : α → Load β} {g : α → List Site} {items : List α}
    (h : ∀ a ∈ items, GoesThrough (f a) (g a)) : GoesThrough (items.mapM f) (items.flatMap g) := by
  induction items with
  | nil => exact ok []
  | cons a rest ih =>
    obtain ⟨hfirst, hrest⟩ := List.forall_mem_cons.mp h
    rw [List.mapM_cons, List.flatMap_cons]
    exact hfirst.bind fun b _ => (ih hrest).map _

/-! A single site is passed, trips loading, or is refused. -/

variable {site : Site}

theorem passed (a : α) (h : site.Passes) (hnot : ¬ site.Trips) :
    GoesThrough (.ok a : Load α) [site] := by
  refine ⟨iff_of_true ⟨a, rfl⟩ (by simpa using h), iff_of_false (not_escapes_ok a) ?_⟩
  rintro (htrips | ⟨-, hrest⟩)
  exacts [hnot htrips, hrest]

theorem tripped (hx : Escapes x) (h : site.Trips) (hnot : ¬ site.Passes) :
    GoesThrough x [site] := by
  refine ⟨iff_of_false ?_ (by simpa using hnot), iff_of_true hx (.inl h)⟩
  obtain ⟨e, rfl, -⟩ := hx
  rintro ⟨a, ha⟩
  cases ha

theorem refused (d : DefinitionError) (issues : List Issue) (h : ¬ site.Passes)
    (hnot : ¬ site.Trips) : GoesThrough (.error (.refused d issues) : Load α) [site] := by
  refine ⟨iff_of_false nofun (by simpa using h), iff_of_false (not_escapes_refused d issues) ?_⟩
  rintro (htrips | ⟨-, hrest⟩)
  exacts [hnot htrips, hrest]

end GoesThrough

/-- A name is passed if it is written out, and trips loading otherwise. -/
theorem goesThrough_name (v : Value) : GoesThrough (orFault v.text?) [.name v] := by
  by_cases hlong : v.HasLongInteger
  · rw [(Value.text?_failsIff v).eq_error hlong]
    exact .tripped (escapes_fault _) hlong (not_not.mpr hlong)
  · obtain ⟨shown, hshown⟩ := (Value.text?_failsIff v).returns hlong
    rw [hshown]
    exact .passed shown hlong hlong

section Clauses

variable {clause named : List (Value × Value)} {name : Value} {p : Predicate Value}

/-- A record names no more than one predicate. -/
theorem NamesPredicate.unique {p' : Predicate Value} (h : NamesPredicate named p)
    (h' : NamesPredicate named p') : p' = p := by
  have hlookup : ∃ name, Value.lookupEntry (.text "predicate") named = some name := by
    cases h <;> exact ⟨_, ‹_›⟩
  obtain ⟨name, hname⟩ := hlookup
  obtain ⟨hfound, -⟩ := namedPredicate?_spec "" hname
  exact Except.ok.inj (((hfound p').mpr h').symm.trans ((hfound p).mpr h))

/-- A clause is passed if it names a predicate that is not long. -/
theorem Site.passes_clause_iff (hnamed : recordAt? "value" clause = some named)
    (hname : Value.lookupEntry (.text "predicate") named = some name) :
    (Site.clause clause).Passes ↔ ∃ p, NamesPredicate named p ∧ ¬ p.IsLong := by
  simp [Passes, hnamed, hname]

/-- It trips loading if it names a long one, or has in the place of the name what cannot be one. -/
theorem Site.trips_clause_iff (hnamed : recordAt? "value" clause = some named)
    (hname : Value.lookupEntry (.text "predicate") named = some name) :
    (Site.clause clause).Trips ↔ name.IsNoName ∨ ∃ p, NamesPredicate named p ∧ p.IsLong := by
  simp [Trips, hnamed, hname]

/-- Looking up a predicate and writing its name goes through the clause. -/
theorem goesThrough_predicate (place : String) (put : Predicate Value → List (Value × Value))
    (hnamed : recordAt? "value" clause = some named)
    (hname : Value.lookupEntry (.text "predicate") named = some name) :
    GoesThrough (do
      let p ← namedPredicate? place named name
      let _ ← orFault (Value.predicateName? p)
      return put p) [.clause clause] := by
  have hpasses := Site.passes_clause_iff hnamed hname
  have htrips := Site.trips_clause_iff hnamed hname
  obtain ⟨hfound, hescapes⟩ := namedPredicate?_spec place hname
  cases hp : namedPredicate? place named name with
  | error e =>
    have hnone : ∀ p, ¬ NamesPredicate named p := fun p h =>
      nomatch hp.symm.trans ((hfound p).mpr h)
    have hnot : ¬ (Site.clause clause).Passes := by simp [hpasses, hnone]
    by_cases hno : name.IsNoName
    · refine .tripped ?_ (htrips.mpr (.inl hno)) hnot
      exact escapes_bind.mpr (.inl (hp ▸ hescapes.mpr hno))
    · obtain ⟨d, issues, rfl⟩ := exists_refused_of_not_escapes (hp ▸ mt hescapes.mp hno)
      exact .refused d issues hnot (by simp [htrips, hno, hnone])
  | ok p =>
    have hnames := (hfound p).mp hp
    have hno : ¬ name.IsNoName := fun h => not_escapes_ok p (hp ▸ hescapes.mpr h)
    show GoesThrough (orFault (Value.predicateName? p) >>= fun _ => _) _
    by_cases hlong : p.IsLong
    · rw [p.name?_failsIff.eq_error hlong]
      refine .tripped (escapes_fault _) (htrips.mpr (.inr ⟨p, hnames, hlong⟩)) ?_
      rw [hpasses]
      rintro ⟨p', hp', hshort⟩
      exact hshort (hnames.unique hp' ▸ hlong)
    · obtain ⟨written, hwritten⟩ := p.name?_failsIff.returns hlong
      rw [hwritten]
      refine .passed _ (hpasses.mpr ⟨p, hnames, hlong⟩) ?_
      rw [htrips]
      rintro (h | ⟨p', hp', h⟩)
      · exact hno h
      · exact hlong (hnames.unique hp' ▸ h)

/-- **Resolving a clause** goes through the clause. -/
theorem goesThrough_clause (identity : Identity) (place : String)
    (clause : List (Value × Value)) :
    GoesThrough (resolveClause? identity place clause) [.clause clause] := by
  unfold resolveClause?
  cases hnamed : recordAt? "value" clause with
  | none => exact .passed clause (by simp [Site.Passes, hnamed]) (by simp [Site.Trips, hnamed])
  | some named =>
    cases hname : Value.lookupEntry (.text "predicate") named with
    | none =>
      dsimp only
      rw [hname]
      exact .passed clause (by simp [Site.Passes, hnamed, hname])
        (by simp [Site.Trips, hnamed, hname])
    | some name =>
      dsimp only
      rw [hname]
      exact goesThrough_predicate place
        (fun p => withEntry "value" (.callable (.predicate p identity)) clause) hnamed hname

end Clauses

section Rules

variable {named : List (Value × Value)} {maker : RuleMaker} {parameter : Value}

/-- A record names no more than one rule. -/
theorem NamesRule.unique {maker' : RuleMaker} {parameter' : Value}
    (h : NamesRule named maker parameter) (h' : NamesRule named maker' parameter') :
    maker' = maker ∧ parameter' = parameter := by
  obtain ⟨⟨s, hname, hmaker⟩, entries, hentries, htakes⟩ := h
  obtain ⟨⟨s', hname', hmaker'⟩, entries', hentries', htakes'⟩ := h'
  cases hname.symm.trans hname'
  cases hmaker.symm.trans hmaker'
  cases hentries.symm.trans hentries'
  exact ⟨rfl, Except.ok.inj (htakes'.needed.symm.trans htakes.needed)⟩

/-- A record that names a rule can be a name's. -/
theorem NamesRule.not_isNoName {name : Value} (h : NamesRule named maker parameter)
    (hname : Value.lookupEntry (.text "rule") named = some name) : ¬ name.IsNoName := by
  obtain ⟨⟨s, hs, -⟩, -⟩ := h
  cases hname.symm.trans hs
  exact Value.not_isNoName_text s

/-- A record that names a rule is passed unless the maker of the rule trips loading. -/
theorem NamesRule.passes_iff (h : NamesRule named maker parameter) :
    (Site.rule named).Passes ↔ ¬ maker.Trips parameter (ruleMessage named) := by
  refine ⟨?_, fun hnot => ⟨maker, parameter, h, hnot⟩⟩
  rintro ⟨maker', parameter', h', hnot⟩
  obtain ⟨rfl, rfl⟩ := h.unique h'
  exact hnot

theorem NamesRule.trips_iff (h : NamesRule named maker parameter) :
    (Site.rule named).Trips ↔ maker.Trips parameter (ruleMessage named) := by
  refine ⟨?_, fun htrips => .inr ⟨maker, parameter, h, htrips⟩⟩
  rintro (⟨name, hname, hno⟩ | ⟨maker', parameter', h', htrips⟩)
  · exact absurd hno (h.not_isNoName hname)
  · obtain ⟨rfl, rfl⟩ := h.unique h'
    exact htrips

/-- A record that names no rule is refused, as long as it has what can be a name. -/
theorem GoesThrough.refused_rule {α : Type} (d : DefinitionError)
    (hname : ∀ name, Value.lookupEntry (.text "rule") named = some name → ¬ name.IsNoName)
    (hnone : ∀ maker parameter, ¬ NamesRule named maker parameter) :
    GoesThrough (refuse d : Load α) [.rule named] := by
  refine .refused d [] (fun ⟨maker, parameter, h, _⟩ => hnone maker parameter h) ?_
  rintro (⟨name, h, hno⟩ | ⟨maker, parameter, h, -⟩)
  · exact hname name h hno
  · exact hnone maker parameter h

/-- What is built goes through the record that names it. -/
theorem NamesRule.goesThrough {α : Type} (h : NamesRule named maker parameter)
    (made : Except RuleError (RuleTest Value × String)) (put : RuleTest Value → String → α)
    (refusal : String → DefinitionError) (issue : Issue) :
    RuleMaker.MadeUnless made (maker.Trips parameter (ruleMessage named)) →
    GoesThrough (match made with
      | .ok (test, message) => .ok (put test message)
      | .error (.badParameters problem) => refuse (refusal problem)
      | .error .badMessage => .error (.issues [issue])
      | .error (.fault f) => .error (.fault f) : Load α) [.rule named] := by
  intro hmade
  have htripped : ∀ x : Load α, Escapes x → maker.Trips parameter (ruleMessage named) →
      GoesThrough x [.rule named] := fun x hx htrips =>
    .tripped hx (h.trips_iff.mpr htrips) (mt h.passes_iff.mp (not_not.mpr htrips))
  cases hmade with
  | made hnot => exact .passed _ (h.passes_iff.mpr hnot) (mt h.trips_iff.mp hnot)
  | badMessage htrips => exact htripped _ ⟨_, rfl, nofun⟩ htrips
  | fault htrips => exact htripped _ (escapes_fault _) htrips

/-- What a maker makes of the entries in the record that names it goes through that record. -/
theorem goesThrough_made {α : Type} {s : String} {entries : List (Value × Value)}
    (hname : Value.lookupEntry (.text "rule") named = some (.text s))
    (hmaker : RuleMaker.ofName? s = some maker) (hparams : ruleParameters? named = some entries)
    (put : RuleTest Value → String → α) (refusal : String → DefinitionError) (issue : Issue) :
    GoesThrough (match maker.makeWithMessage? entries (ruleMessage named) with
      | .ok (test, message) => .ok (put test message)
      | .error (.badParameters problem) => refuse (refusal problem)
      | .error .badMessage => .error (.issues [issue])
      | .error (.fault f) => .error (.fault f) : Load α) [.rule named] := by
  rcases maker.makeWithMessage?_cases entries (ruleMessage named) with
    ⟨parameter, htakes, hmake⟩ | ⟨hnone, problem, hmake⟩
  · have hnames : NamesRule named maker parameter :=
      ⟨⟨s, hname, hmaker⟩, entries, hparams, htakes⟩
    rw [hmake]
    exact hnames.goesThrough _ put refusal issue (maker.build?_madeUnless _ _)
  · rw [hmake]
    refine .refused_rule _ ?_ ?_
    · intro name' hname'
      cases hname.symm.trans hname'
      exact Value.not_isNoName_text s
    · rintro maker' parameter ⟨⟨s', hs', hmaker'⟩, entries', hentries', htakes⟩
      cases hname.symm.trans hs'
      cases hmaker.symm.trans hmaker'
      cases hparams.symm.trans hentries'
      exact hnone parameter htakes

end Rules

/-- **Making a rule** goes through the record that names it. -/
theorem goesThrough_rule (identity : Identity) (place : String) (named : List (Value × Value)) :
    GoesThrough (resolveRule? identity place named) [.rule named] := by
  unfold resolveRule?
  cases hname : Value.lookupEntry (.text "rule") named with
  | none =>
    refine .refused_rule _ (fun _ h => nomatch hname.symm.trans h) ?_
    rintro _ _ ⟨⟨_, h, -⟩, -⟩
    cases hname.symm.trans h
  | some name =>
    dsimp only
    by_cases hno : name.IsNoName
    · exact .tripped (hno.escapes _) (.inl ⟨name, hname, hno⟩)
        fun ⟨_, _, h, _⟩ => h.not_isNoName hname hno
    have hguarded : ∀ name', Value.lookupEntry (.text "rule") named = some name' →
        ¬ name'.IsNoName := fun _ h => Option.some.inj (hname.symm.trans h) ▸ hno
    obtain ⟨hguard, shown, hshown⟩ := Value.exists_of_not_isNoName hno
    rw [hguard, hshown]
    simp only [orFault, Except.mapError, bind, Except.bind]
    split
    · rename_i hmaker
      refine .refused_rule _ hguarded ?_
      rintro _ _ ⟨⟨s, hs, hs'⟩, -⟩
      cases hname.symm.trans hs
      cases hmaker.symm.trans hs'
    rename_i maker hmaker
    obtain ⟨s, rfl, hs⟩ : ∃ s, name = .text s ∧ RuleMaker.ofName? s = some maker := by
      cases name with
      | text s => exact ⟨s, rfl, hmaker⟩
      | _ => cases hmaker
    split
    · rename_i entries hentries
      exact goesThrough_made hname hs (ruleParameters?_eq_some_iff.mpr hentries)
        (fun test message => Value.rule (.test test identity) message)
        (.badParameters place shown) ⟨[.key "message"], .notText⟩
    · rename_i hnodict
      refine .refused_rule _ hguarded ?_
      rintro maker' parameter ⟨-, entries, hentries, -⟩
      exact hnodict entries (ruleParameters?_eq_some_iff.mp hentries)

end Intake
