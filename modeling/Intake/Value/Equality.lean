import Intake.Value.Basic

/-!
# When two values are equal

`Value.eqv` compares by what values say: numbers by their amount, whatever sort they are of
(a truth value counts as one or zero), lists and tuples item by item, sets and dictionaries
without regard to order.  A list never equals a tuple.

`Value.strictEqv` is the equality of conditions: at the top a truth value equals only itself,
so one is not `true`.
-/

namespace Intake

namespace Value

/-- Are an integer and a value the same amount? -/
def eqvInt (n : Int) : Value → Bool
  | .bool b => n == (if b then 1 else 0)
  | .int m => n == m
  | .float x => x.eqvInt n
  | _ => false

/-- Are a floating-point number and a value the same amount? -/
def eqvFloat (x : Binary64) : Value → Bool
  | .bool b => x.eqvInt (if b then 1 else 0)
  | .int n => x.eqvInt n
  | .float y => x.eqv y
  | _ => false

mutual

/-- Do two values say the same? -/
def eqv : Value → Value → Bool
  | .null, .null => true
  | .bool b, other => eqvInt (if b then 1 else 0) other
  | .int n, other => eqvInt n other
  | .float x, other => eqvFloat x other
  | .text s, .text t => s == t
  | .list xs, .list ys => eqvAll xs ys
  | .tuple xs, .tuple ys => eqvAll xs ys
  | .set xs, .set ys => xs.length == ys.length && allAmong xs ys
  | .day d, .day e => d == e
  | .moment a, .moment b => a.eqv b
  | .dict xs, .dict ys => xs.length == ys.length && entriesAmong xs ys
  | .callable f, .callable g => f.key == g.key
  | .rule t m, .rule u n => t.key == u.key && m == n
  | _, _ => false

/-- Are the items of two lists equal one by one? -/
def eqvAll : List Value → List Value → Bool
  | [], [] => true
  | x :: xs, y :: ys => eqv x y && eqvAll xs ys
  | _, _ => false

/-- Does every item of the first list equal one of the second? -/
def allAmong : List Value → List Value → Bool
  | [], _ => true
  | x :: xs, ys => ys.any (fun y => eqv x y) && allAmong xs ys

/-- Does every entry of the first dictionary equal one of the second? -/
def entriesAmong : List (Value × Value) → List (Value × Value) → Bool
  | [], _ => true
  | (k, v) :: rest, ys => ys.any (fun e => eqv k e.1 && eqv v e.2) && entriesAmong rest ys

end

/-- Equality that never mixes truth values with numbers at the top. -/
def strictEqv : Value → Value → Bool
  | .bool a, .bool b => a == b
  | .bool _, _ => false
  | _, .bool _ => false
  | a, b => eqv a b

/-- Are two values equal and of one sort? -/
def sameAs (a b : Value) : Bool :=
  strictEqv a b && a.kind == b.kind

mutual

/-- The sort of the part of a value that cannot be looked up in a set or dictionary. -/
def unhashable? : Value → Option Kind
  | .list _ => some .list
  | .dict _ => some .dict
  | .set _ => some .set
  | .tuple items => unhashableAmong? items
  | _ => none

/-- The first such part of a list of values. -/
def unhashableAmong? : List Value → Option Kind
  | [] => none
  | x :: xs => (unhashable? x).or (unhashableAmong? xs)

end

/-- The items of a list, each said once, the first time it occurs. -/
def distinct (items : List Value) : List Value :=
  items.foldl (fun kept x => if kept.any (eqv x) then kept else kept ++ [x]) []

/-- The entries of a dictionary with one key set: in place if it is there, else at the end. -/
def setEntry (key value : Value) : List (Value × Value) → List (Value × Value)
  | [] => [(key, value)]
  | (k, v) :: rest => if eqv k key then (k, value) :: rest else (k, v) :: setEntry key value rest

/-- The value under a key. -/
def lookupEntry (key : Value) (entries : List (Value × Value)) : Option Value :=
  (entries.find? fun e => eqv e.1 key).map Prod.snd

/-- The value under a text key of a dictionary. -/
def field? (name : String) : Value → Option Value
  | .dict entries => lookupEntry (.text name) entries
  | _ => none

end Value

end Intake
