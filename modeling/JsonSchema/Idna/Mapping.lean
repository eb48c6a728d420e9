import JsonSchema.Idna.MappingData
import JsonSchema.Unicode.Normalization

/-!
# Mapping of domain names

Before a name is looked at, letters become lower case, compatibility forms become the characters
they stand for, and invisible characters go. A character with no mapping may not occur.
-/

namespace JsonSchema.Idna

/-- The code points that stay as they are. -/
def kept : CodeSet := .ofRuns MappingData.kept

/-- The code points that go. -/
def dropped : CodeSet := .ofRuns MappingData.dropped

/-- One row of replacements: the first code point, its replacement, how many, at what step. -/
structure Row where
  first : Nat
  target : Nat
  count : Nat
  step : Nat

/-- Reads a row, in which a count and a step of one are left out. -/
def readRow (word : List Char) : Row :=
  match (Unicode.splitWord '.' word).map CodeSet.number36 with
  | [first, target, count, step] => ⟨first, target, count, step⟩
  | [first, target, count] => ⟨first, target, count, 1⟩
  | [first, target] => ⟨first, target, 1, 1⟩
  | _ => ⟨0, 0, 0, 1⟩

/-- The code points with one replacement. -/
def rows : List Row := (CodeSet.words MappingData.single.toList).map readRow

/-- The code points with several replacements. -/
def several : List (Nat × List Nat) :=
  Unicode.readEntries 0 (CodeSet.words MappingData.several.toList)

/-- The replacement of a code point in a row. -/
def Row.map? (row : Row) (n : Nat) : Option Nat :=
  if row.first ≤ n ∧ (n - row.first) % row.step = 0 ∧ (n - row.first) / row.step < row.count then
    some (row.target + (n - row.first))
  else none

/-- What becomes of a code point. -/
def mapped? (n : Nat) : Option (List Nat) :=
  if kept.has n then some [n]
  else if dropped.has n then some []
  else match rows.findSome? (·.map? n) with
    | some m => some [m]
    | none => several.lookup n

/-- A name with its characters mapped and put together. -/
def mapName (cs : List Nat) : Option (List Nat) :=
  if cs.all (· < 0x80) then
    some (cs.map fun n => if 0x41 ≤ n ∧ n ≤ 0x5A then n + 32 else n)
  else ((cs.mapM mapped?).map List.flatten).map Unicode.composition

end JsonSchema.Idna
