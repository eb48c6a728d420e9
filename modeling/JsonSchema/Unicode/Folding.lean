import JsonSchema.Unicode.CaseFolding
import JsonSchema.Unicode.CodeSet

/-!
# Sets closed under case

A set that ignores case holds with a character all that simple case folding does not tell apart
from it.
-/

namespace JsonSchema.Unicode

/-- The parts of a word between the points. -/
def fields (word : List Char) : List (List Char) :=
  (word.foldr (fun c acc => match acc with
    | [] => if c = '.' then [[], []] else [[c]]
    | field :: rest => if c = '.' then [] :: field :: rest else (c :: field) :: rest) [])

/-- The pairs of one row of the table. -/
def pairRow (row : List Char) : List (List Nat) :=
  match (fields row).map CodeSet.number36 with
  | [first, count, step, distance] =>
    (List.range count).map fun i => [first + i * step, first + i * step + distance]
  | _ => []

/-- The groups of characters that are alike but for case. -/
def caseClasses : List (List Nat) :=
  (CodeSet.words casePairs.toList).flatMap pairRow ++ caseGroups

end JsonSchema.Unicode

namespace JsonSchema

/-- The characters of a set and all that differ from one of them only in case. -/
def CodeSet.foldCase (s : CodeSet) : CodeSet :=
  let extra := Unicode.caseClasses.filter fun group => group.any s.has
  CodeSet.ofRanges (s.ranges ++ extra.flatten.map fun n => (n, n))

/-- The same for the letters of ASCII alone. -/
def CodeSet.foldAsciiCase (s : CodeSet) : CodeSet :=
  let extra := (List.range 26).filter fun i => s.has (65 + i) || s.has (97 + i)
  CodeSet.ofRanges (s.ranges ++ extra.flatMap fun i => [(65 + i, 65 + i), (97 + i, 97 + i)])

end JsonSchema
