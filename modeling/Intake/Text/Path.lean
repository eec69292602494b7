/-!
# Paths

A path is a row of parts with slashes between them.  Empty parts and single dots do not count.

* `Path.plain` writes a path without the parts that do not count;
* `Path.stem` is the name of what a path leads to, without its ending.
-/

namespace Intake.Path

/-- The parts of a path that count. -/
def parts (path : String) : List (List Char) :=
  (path.toList.splitOn '/').filter fun part => part ≠ [] ∧ part ≠ ['.']

/-- The path without the parts that do not count; a dot if there are no others. -/
def plain (path : String) : String :=
  let row := String.ofList ((parts path).intersperse ['/']).flatten
  if path.toList.head? = some '/' then "/" ++ row
  else if row.isEmpty then "."
  else row

/-- A name up to its last dot; a dot at either end of the name is no such dot. -/
def withoutEnding (name : List Char) : List Char :=
  let ending := name.reverse.takeWhile (· ≠ '.')
  let base := name.take (name.length - ending.length - 1)
  if ending.isEmpty || ending.length = name.length || base.isEmpty then name else base

/-- The name of what a path leads to, without its ending. -/
def stem (path : String) : String :=
  String.ofList (withoutEnding ((parts path).getLastD []))

end Intake.Path
