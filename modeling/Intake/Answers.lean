import Intake.Value.Basic

/-!
# Answers

The values of a form under the names of its fields, in the order in which they were first
given; a name occurs once.

* `Answers.get` reads a name, a missing one as nothing;
* `Answers.set` writes a name: in place if it is there, else at the end;
* `keys_set` says what writing does to the names, `get_set` what it does to the values.
-/

namespace Intake

/-- The values of a form under the names of its fields. -/
structure Answers where
  entries : List (String × Value)
  distinct : (entries.map Prod.fst).Nodup

namespace Answers

/-- The value under a name in a list of entries. -/
def lookup (name : String) : List (String × Value) → Option Value
  | [] => none
  | (n, v) :: rest => if n = name then some v else lookup name rest

/-- The entries with one name written. -/
def write (name : String) (value : Value) : List (String × Value) → List (String × Value)
  | [] => [(name, value)]
  | (n, v) :: rest => if n = name then (n, value) :: rest else (n, v) :: write name value rest

/-- Writing keeps the names, and puts a new one at the end. -/
theorem map_fst_write (name : String) (value : Value) (entries : List (String × Value)) :
    (write name value entries).map Prod.fst =
      if name ∈ entries.map Prod.fst then entries.map Prod.fst
      else entries.map Prod.fst ++ [name] := by
  induction entries with
  | nil => simp [write]
  | cons e rest ih =>
    obtain ⟨n, v⟩ := e
    by_cases h : n = name
    · simp [write, h]
    · have hne : ¬ name = n := fun hn => h hn.symm
      simp only [write, h, if_false, List.map_cons, ih, List.mem_cons, hne, false_or]
      split <;> simp

/-- Names stay apart when one is written. -/
theorem nodup_write {name : String} {value : Value} {entries : List (String × Value)}
    (h : (entries.map Prod.fst).Nodup) : ((write name value entries).map Prod.fst).Nodup := by
  rw [map_fst_write]
  split
  · exact h
  · rename_i hmem
    exact List.nodup_append.2 ⟨h, by simp, by
      intro a ha b hb
      simp only [List.mem_singleton] at hb
      exact fun hab => hmem (hb ▸ hab ▸ ha)⟩

/-- What is written is found under its name; nothing else changes. -/
theorem lookup_write (name other : String) (value : Value) (entries : List (String × Value)) :
    lookup other (write name value entries) =
      if name = other then some value else lookup other entries := by
  induction entries with
  | nil => simp [write, lookup]
  | cons e rest ih =>
    obtain ⟨n, v⟩ := e
    by_cases h : n = name
    · subst h
      by_cases ho : n = other <;> simp [write, lookup, ho]
    · by_cases ho : n = other
      · have hne : ¬ name = other := fun hn => h (ho.trans hn.symm)
        simp only [write, if_neg h, lookup, if_pos ho, if_neg hne]
      · simp [write, lookup, h, ho, ih]

/-- No answers. -/
def empty : Answers := ⟨[], by simp⟩

instance : Inhabited Answers := ⟨empty⟩

/-- The value under a name, if it is there. -/
def get? (a : Answers) (name : String) : Option Value :=
  lookup name a.entries

/-- The value under a name; a missing name reads as nothing. -/
def get (a : Answers) (name : String) : Value :=
  (a.get? name).getD .null

/-- The answers with one name written. -/
def set (a : Answers) (name : String) (value : Value) : Answers :=
  ⟨write name value a.entries, nodup_write a.distinct⟩

/-- The answers without one name. -/
def erase (a : Answers) (name : String) : Answers :=
  ⟨a.entries.filter fun e => e.1 ≠ name,
   a.distinct.sublist (List.Sublist.map Prod.fst List.filter_sublist)⟩

/-- The names, in order. -/
def keys (a : Answers) : List String :=
  a.entries.map Prod.fst

/-- The answers with all entries of a patch written in turn. -/
def update (a : Answers) (patch : List (String × Value)) : Answers :=
  patch.foldl (fun acc e => acc.set e.1 e.2) a

/-- The answers that a list of entries gives. -/
def ofEntries (entries : List (String × Value)) : Answers :=
  empty.update entries

/-- The answers as a dictionary value. -/
def toValue (a : Answers) : Value :=
  .dict (a.entries.map fun e => (.text e.1, e.2))

/-- What is set is found under its name; every other name is as it was. -/
theorem get?_set (a : Answers) (name other : String) (value : Value) :
    (a.set name value).get? other = if name = other then some value else a.get? other :=
  lookup_write name other value a.entries

/-- What is set is read back, and every other name reads as it did. -/
theorem get_set (a : Answers) (name other : String) (value : Value) :
    (a.set name value).get other = if name = other then value else a.get other := by
  unfold get
  rw [get?_set]
  split <;> simp

/-- Setting a name keeps the names, and puts a new one at the end. -/
theorem keys_set (a : Answers) (name : String) (value : Value) :
    (a.set name value).keys = if name ∈ a.keys then a.keys else a.keys ++ [name] :=
  map_fst_write name value a.entries

end Answers

end Intake
