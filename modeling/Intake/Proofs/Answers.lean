import Intake.Answers
import Intake.Proofs.Lookup

/-!
# Answers as lists of entries

As no name occurs twice, answers are the list of their names, each with its value.

* `Answers.entries_ofEntries` says that entries of distinct names give the answers that hold
  them, in their order;
* `Answers.entries_eq` says that the names and what is read under them make up the entries;
* `Answers.get?_update` says what is read once some entries have been written.
-/

namespace Intake.Answers

/-- A name that is not there is written at the end. -/
theorem write_of_not_mem {name : String} {value : Value} {entries : List (String × Value)}
    (h : name ∉ entries.map Prod.fst) : write name value entries = entries ++ [(name, value)] := by
  induction entries with
  | nil => rfl
  | cons e rest ih =>
    obtain ⟨n, v⟩ := e
    obtain ⟨hne, hrest⟩ := List.ne_and_not_mem_of_not_mem_cons h
    rw [write, if_neg (Ne.symm hne), ih hrest]
    rfl

/-- Entries of new and distinct names are written at the end, in their order. -/
theorem entries_update {a : Answers} {patch : List (String × Value)}
    (h : ((a.entries ++ patch).map Prod.fst).Nodup) :
    (a.update patch).entries = a.entries ++ patch := by
  induction patch generalizing a with
  | nil => simp [update]
  | cons e rest ih =>
    have hnew : e.1 ∉ a.entries.map Prod.fst := by
      rw [List.map_append] at h
      exact fun hmem => (List.nodup_append.mp h).2.2 _ hmem _ (by simp) rfl
    have hset : (a.set e.1 e.2).entries = a.entries ++ [e] := write_of_not_mem hnew
    have hrest : (((a.set e.1 e.2).entries ++ rest).map Prod.fst).Nodup := by
      rw [hset, List.append_assoc]
      exact h
    calc (a.update (e :: rest)).entries = ((a.set e.1 e.2).update rest).entries := rfl
      _ = (a.set e.1 e.2).entries ++ rest := ih hrest
      _ = a.entries ++ e :: rest := by rw [hset, List.append_assoc]; rfl

/-- Entries of distinct names give the answers that hold just them. -/
theorem entries_ofEntries {entries : List (String × Value)}
    (h : (entries.map Prod.fst).Nodup) : (ofEntries entries).entries = entries :=
  entries_update h

/-- Entries are looked up like any pairs. -/
theorem lookup_eq (name : String) (entries : List (String × Value)) :
    lookup name entries = entries.lookup name := by
  induction entries with
  | nil => rfl
  | cons e rest ih =>
    obtain ⟨n, v⟩ := e
    rw [lookup, List.lookup_cons, ih]
    by_cases hname : n = name
    · rw [if_pos hname, hname, beq_self_eq_true]
    · rw [if_neg hname, beq_eq_false_iff_ne.mpr (Ne.symm hname)]

/-- One entry is looked up under its name. -/
theorem lookup_singleton (written name : String) (value : Value) :
    [(written, value)].lookup name = if written = name then some value else none := by
  rw [← lookup_eq]
  rfl

/-- Entries are written one after the other. -/
theorem update_append (a : Answers) (first second : List (String × Value)) :
    a.update (first ++ second) = (a.update first).update second :=
  List.foldl_append

/-- **The last write counts.**  Under a name there is what was written last under it, or what was
there before. -/
theorem get?_update (a : Answers) (patch : List (String × Value)) (name : String) :
    (a.update patch).get? name = (patch.reverse.lookup name).or (a.get? name) := by
  induction patch generalizing a with
  | nil => rfl
  | cons e rest ih =>
    obtain ⟨written, value⟩ := e
    have hfirst : (a.update ((written, value) :: rest)).get? name =
        ((a.set written value).update rest).get? name := rfl
    rw [hfirst, ih, get?_set, List.reverse_cons, List.lookup_append, Option.or_assoc,
      lookup_singleton]
    by_cases hname : written = name
    · simp [hname]
    · simp [hname]

/-- What is among the entries is read under its name. -/
theorem get_of_mem {a : Answers} {name : String} {value : Value}
    (h : (name, value) ∈ a.entries) : a.get name = value := by
  rw [get, get?, lookup_eq, lookup_eq_some_of_mem a.distinct h]
  rfl

/-- What is not there reads as nothing. -/
theorem get_of_not_mem {a : Answers} {name : String} (h : name ∉ a.keys) :
    a.get name = .null := by
  rw [get, get?, lookup_eq, lookup_eq_none_of_not_mem h]
  rfl

/-- Answers are their names, each with what is read under it. -/
theorem entries_eq (a : Answers) : a.entries = a.keys.map fun name => (name, a.get name) := by
  rw [keys, List.map_map]
  refine (List.map_id _).symm.trans (List.map_congr_left fun e he => ?_)
  exact Prod.ext rfl (get_of_mem he).symm

/-- Answers with the same entries are the same. -/
theorem ext_entries {a b : Answers} (h : a.entries = b.entries) : a = b := by
  cases a
  cases b
  cases h
  rfl

end Intake.Answers
