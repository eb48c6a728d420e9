/-!
# Sets of code points

A set of code points is a list of closed intervals. The algebra of sets keeps the intervals in
order and apart.
-/

namespace JsonSchema

/-- A set of code points, as intervals with both ends in the set. -/
structure CodeSet where
  ranges : List (Nat × Nat)
  deriving DecidableEq, Repr

namespace CodeSet

/-- Membership of a code point. -/
def has (s : CodeSet) (n : Nat) : Bool := s.ranges.any fun r => r.1 ≤ n && n ≤ r.2

/-- Membership of a character. -/
def contains (s : CodeSet) (c : Char) : Bool := s.has c.toNat

/-- The empty set. -/
def empty : CodeSet := ⟨[]⟩

/-- Every code point. -/
def all : CodeSet := ⟨[(0, 0x10FFFF)]⟩

/-- The code points of one interval. -/
def range (low high : Nat) : CodeSet := ⟨[(low, high)]⟩

/-- A single character. -/
def single (c : Char) : CodeSet := range c.toNat c.toNat

/-- Joins an interval with those that follow it, which are ordered by lower ends. -/
def joinRanges (current : Nat × Nat) : List (Nat × Nat) → List (Nat × Nat)
  | [] => [current]
  | r :: rest =>
    if r.1 ≤ current.2 + 1 then joinRanges (current.1, max current.2 r.2) rest
    else current :: joinRanges r rest

/-- The set covered by any list of intervals. -/
def ofRanges (rs : List (Nat × Nat)) : CodeSet :=
  match rs.mergeSort fun a b => a.1 ≤ b.1 with
  | [] => ⟨[]⟩
  | r :: rest => ⟨joinRanges r rest⟩

/-- The code points in either set. -/
def union (s t : CodeSet) : CodeSet := ofRanges (s.ranges ++ t.ranges)

/-- The intervals between those of an ordered list, from a given code point on. -/
def gaps (next : Nat) : List (Nat × Nat) → List (Nat × Nat)
  | [] => if next ≤ 0x10FFFF then [(next, 0x10FFFF)] else []
  | r :: rest =>
    if next < r.1 then (next, r.1 - 1) :: gaps (r.2 + 1) rest else gaps (max next (r.2 + 1)) rest

/-- The code points that are not in the set. -/
def complement (s : CodeSet) : CodeSet := ⟨gaps 0 (ofRanges s.ranges).ranges⟩

/-- The code points in both sets. -/
def inter (s t : CodeSet) : CodeSet := (s.complement.union t.complement).complement

/-- The code points of the first set that are not in the second. -/
def diff (s t : CodeSet) : CodeSet := s.inter t.complement

/-- The code points in exactly one of the sets. -/
def symmDiff (s t : CodeSet) : CodeSet := (s.union t).diff (s.inter t)

/-- The union of several sets. -/
def unions (ss : List CodeSet) : CodeSet := ofRanges (ss.flatMap (·.ranges))

/-! ## Written sets -/

/-- The value of a digit in base 36. -/
def digit36 (c : Char) : Nat := if '0' ≤ c && c ≤ '9' then c.toNat - 48 else c.toNat - 87

/-- The number that a word writes in base 36. -/
def number36 (word : List Char) : Nat := word.foldl (fun n c => 36 * n + digit36 c) 0

/-- The words of a text, in order. -/
def words (cs : List Char) : List (List Char) :=
  let (word, rest) := cs.foldr (fun c (word, rest) =>
    if c = ' ' ∨ c = '\n' then ([], if word = [] then rest else word :: rest)
    else (c :: word, rest)) (([], []) : List Char × List (List Char))
  if word = [] then rest else word :: rest

/-- The intervals that alternating gaps and lengths describe. -/
def runIntervals (position : Nat) : List Nat → List (Nat × Nat)
  | gap :: length :: rest =>
    (position + gap, position + gap + length - 1) :: runIntervals (position + gap + length) rest
  | _ => []

/-- The set written as runs: a gap, then a length, in turn, in base 36. -/
def ofRuns (text : String) : CodeSet :=
  ⟨runIntervals 0 ((words text.toList).map number36)⟩

end CodeSet
end JsonSchema
