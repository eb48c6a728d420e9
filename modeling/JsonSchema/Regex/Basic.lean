import JsonSchema.Unicode.CodeSet

/-!
# Regular expressions

An expression is built from atoms by sequence, choice and counted repetition. An atom either takes
one character of a set, or takes nothing and looks at what stands on both sides of a place in the
text. Only whether an expression matches is ever asked, so greediness and captures leave no trace.
-/

namespace JsonSchema

/-- Expressions over atoms of any kind. -/
inductive Regex (α : Type)
  /-- Takes nothing. -/
  | empty
  | atom (a : α)
  | seq (r s : Regex α)
  | alt (r s : Regex α)
  /-- At least `min` times, and at most `max` times if there is a limit. -/
  | rep (r : Regex α) (min : Nat) (max : Option Nat)

namespace Regex

/-- What must hold at a place between two characters. -/
inductive Look
  | textStart
  | textEnd
  | lineStart
  | lineEnd
  | lineStartCrlf
  | lineEndCrlf
  /-- A word character on exactly one side. -/
  | wordBoundary (word : CodeSet)
  | noWordBoundary (word : CodeSet)
  | wordStart (word : CodeSet)
  | wordEnd (word : CodeSet)
  /-- No word character before. -/
  | wordStartHalf (word : CodeSet)
  /-- No word character after. -/
  | wordEndHalf (word : CodeSet)

/-- The smallest expressions that take or test something. -/
inductive Atom
  | oneOf (set : CodeSet)
  | look (l : Look)

namespace Look

/-- Whether there is a character, and it is in the set. -/
def isIn (word : CodeSet) (c : Option Char) : Bool := c.any word.contains

/-- Whether the condition holds between two neighbours, absent at the ends of the text. -/
def holds (before after : Option Char) : Look → Bool
  | textStart => before.isNone
  | textEnd => after.isNone
  | lineStart => before.isNone || before == some '\n'
  | lineEnd => after.isNone || after == some '\n'
  | lineStartCrlf =>
    before.isNone || before == some '\n' || (before == some '\r' && after != some '\n')
  | lineEndCrlf =>
    after.isNone || after == some '\r' || (after == some '\n' && before != some '\r')
  | wordBoundary w => isIn w before != isIn w after
  | noWordBoundary w => isIn w before == isIn w after
  | wordStart w => !isIn w before && isIn w after
  | wordEnd w => isIn w before && !isIn w after
  | wordStartHalf w => !isIn w before
  | wordEndHalf w => !isIn w after

end Look

/-- The same expression over other atoms. -/
def map {α β : Type} (f : α → β) : Regex α → Regex β
  | empty => empty
  | atom a => atom (f a)
  | seq r s => seq (r.map f) (s.map f)
  | alt r s => alt (r.map f) (s.map f)
  | rep r min max => rep (r.map f) min max

/-- Expressions one after the other. -/
def seqs {α : Type} : List (Regex α) → Regex α
  | [] => empty
  | [r] => r
  | r :: rs => seq r (seqs rs)

/-- A choice between expressions. -/
def alts {α : Type} : List (Regex α) → Regex α
  | [] => empty
  | [r] => r
  | r :: rs => alt r (alts rs)

end Regex
end JsonSchema
