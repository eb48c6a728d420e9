import JsonSchema.Regex.Basic

/-!
# The size of an expression

A search keeps a state for every byte that an expression may take, and a repetition has the states
of its part once for each time it counts. The size of an expression is the memory of all its states
in bytes, where that of a set is estimated from its intervals.
-/

namespace JsonSchema.Regex

/-- The memory of a single state. -/
def stateSize : Nat := 32

/-- The memory of an interval beyond ASCII. One with characters of several lengths in UTF-8 takes
more. -/
def intervalSize (interval : Nat × Nat) : Nat :=
  let crossed := [0x80, 0x800, 0x10000].countP fun n => interval.1 < n && n ≤ interval.2
  72 + 256 * crossed

/-- The memory of a set of characters. -/
def setSize (set : CodeSet) : Nat :=
  match set.ranges with
  | [(low, high)] =>
    if low = high then stateSize * (Char.ofNat low).utf8Size
    else if high < 0x80 then stateSize
    else 2 * stateSize + intervalSize (low, high)
  | ranges =>
    if ranges.all (·.2 < 0x80) then 2 * stateSize + 8 * ranges.length
    else ranges.foldl (fun n r => n + intervalSize r) (2 * stateSize)

/-- Whether an expression takes no characters at all. -/
def takesNothing : Regex Atom → Bool
  | .empty => true
  | .atom (.look _) => true
  | .atom (.oneOf _) => false
  | .seq r s => takesNothing r && takesNothing s
  | .alt r s => takesNothing r && takesNothing s
  | .rep r _ max => takesNothing r || max == some 0

/-- The size of an expression. What takes nothing need not be repeated. -/
def size : Regex Atom → Nat
  | .empty => stateSize
  | .atom (.look _) => stateSize
  | .atom (.oneOf set) => setSize set
  | .seq r s => size r + size s
  | .alt r s => size r + size s + 2 * stateSize
  | .rep r min max =>
    if takesNothing r then size r + stateSize
    else match max with
      | none => Nat.max 1 min * size r + stateSize
      | some max => max * size r + (max - min) * stateSize + stateSize

/-- The size of the largest expressions that are accepted: ten binary megabytes. -/
def maxSize : Nat := 0xA00000

end JsonSchema.Regex
