import Intake.Schema.Basic

/-!
# A cache of schemas

Schemas that have been made are kept under their fingerprints, up to a number of them; when one
too many has come in, the one that was not used for the longest time goes.

Entries stand in the order of their last use, the latest at the end.  Every schema that is made
gets a number of its own, so that it can be told whether one is new.
-/

namespace Intake

/-- A schema under its fingerprint, with its number. -/
structure CacheEntry where
  key : String
  schema : Schema
  number : Nat

/-- A cache that keeps at most `limit` schemas. -/
structure SchemaCache where
  limit : Nat
  entries : List CacheEntry
  hits : Nat
  misses : Nat
  made : Nat

namespace SchemaCache

/-- A cache without entries. -/
def empty (limit : Nat) : SchemaCache := ⟨limit, [], 0, 0, 0⟩

/-- A cache without entries, if it may keep any. -/
def ofLimit? (limit : Int) : Option SchemaCache :=
  if limit < 1 then none else some (empty limit.toNat)

/-- The number of entries. -/
def size (c : SchemaCache) : Nat := c.entries.length

/-- The entry under a key. -/
def find? (c : SchemaCache) (key : String) : Option CacheEntry :=
  c.entries.find? fun e => e.key = key

/-- The entries with one moved to the end. -/
def moveToEnd (e : CacheEntry) (entries : List CacheEntry) : List CacheEntry :=
  entries.filter (fun other => other.key ≠ e.key) ++ [e]

/-- The entries with one more, less the first ones if they are too many. -/
def takeIn (limit : Nat) (e : CacheEntry) (entries : List CacheEntry) : List CacheEntry :=
  let all := entries ++ [e]
  all.drop (all.length - limit)

/-- The schema of some fields, made unless it is there: what came of it, and the cache
afterwards. -/
def get (c : SchemaCache) (fields : List Field) :
    Except SchemaError CacheEntry × SchemaCache :=
  match fingerprint? fields with
  | .error f => (.error (.fault f), c)
  | .ok key =>
    match c.find? key with
    | some e => (.ok e, { c with hits := c.hits + 1, entries := moveToEnd e c.entries })
    | none =>
      let missed := { c with misses := c.misses + 1 }
      match Schema.compile fields with
      | .error e => (.error e, missed)
      | .ok schema =>
        let e : CacheEntry := ⟨key, schema, c.made⟩
        (.ok e, { missed with made := c.made + 1, entries := takeIn c.limit e c.entries })

/-- The cache without its entries and counts. -/
def clear (c : SchemaCache) : SchemaCache :=
  { c with entries := [], hits := 0, misses := 0 }

end SchemaCache

end Intake
