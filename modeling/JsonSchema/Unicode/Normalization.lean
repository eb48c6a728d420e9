import JsonSchema.Unicode.CodeSet
import JsonSchema.Unicode.NormalizationData

/-!
# Canonical composition

Text is taken apart into base characters and combining characters, the combining characters are
put in the order of their classes, and what can be put together again is put together. Hangul
syllables are taken apart and put together by arithmetic.
-/

namespace JsonSchema.Unicode

/-- Splits a word at a separator. -/
def splitWord (separator : Char) (word : List Char) : List (List Char) :=
  word.foldr (fun c acc => match acc with
    | [] => if c = separator then [[], []] else [[c]]
    | field :: rest => if c = separator then [] :: field :: rest else (c :: field) :: rest) []

/-- Reads a table in which each entry gives several numbers for a code point, and the code point
where it does not follow the one before. -/
def readEntries (next : Nat) : List (List Char) → List (Nat × List Nat)
  | [] => []
  | word :: rest =>
    let (code, numbers) := match splitWord '.' word with
      | [code, numbers] => (CodeSet.number36 code, numbers)
      | _ => (next, word)
    (code, (splitWord ',' numbers).map CodeSet.number36) :: readEntries (code + 1) rest

/-- Characters put together from two others. -/
def composedPairs : List (Nat × List Nat) :=
  readEntries 0 (CodeSet.words NormalizationData.composed.toList)

/-- Characters that are always taken apart. -/
def apartEntries : List (Nat × List Nat) :=
  readEntries 0 (CodeSet.words NormalizationData.apart.toList)

/-- The sets of characters with a combining class other than zero. -/
def combiningClasses : List (Nat × CodeSet) :=
  NormalizationData.classes.map fun entry => (entry.1, CodeSet.ofRuns entry.2)

/-- The combining class of a code point. -/
def combiningClass (n : Nat) : Nat :=
  if n < 0x300 then 0
  else ((combiningClasses.find? fun entry => entry.2.has n).map (·.1)).getD 0

/-- The parts of a code point. A composed one begins with another that may be composed in turn,
never more than a few levels deep. -/
def takeApart : Nat → Nat → List Nat
  | 0, n => [n]
  | fuel + 1, n =>
    if n < 0xC0 then [n]
    else if 0xAC00 ≤ n ∧ n ≤ 0xD7A3 then
      let i := n - 0xAC00
      let tail := i % 28
      [0x1100 + i / 588, 0x1161 + i % 588 / 28] ++ (if tail = 0 then [] else [0x11A7 + tail])
    else match apartEntries.lookup n with
      | some parts => parts
      | none => match composedPairs.lookup n with
        | some (first :: others) => takeApart fuel first ++ others
        | _ => [n]

/-- Puts a character into its place behind those of a lower or equal class. The list is given last
character first. -/
def insertOrdered (n : Nat) : List Nat → List Nat
  | [] => [n]
  | m :: rest =>
    if combiningClass n ≠ 0 ∧ combiningClass n < combiningClass m then m :: insertOrdered n rest
    else n :: m :: rest

/-- The fully decomposed form, in canonical order. -/
def decompose (cs : List Nat) : List Nat :=
  ((cs.flatMap (takeApart 8)).foldl (fun acc n => insertOrdered n acc) []).reverse

/-- The code point put together from two. -/
def compose? (a b : Nat) : Option Nat :=
  if 0x1100 ≤ a ∧ a ≤ 0x1112 ∧ 0x1161 ≤ b ∧ b ≤ 0x1175 then
    some (0xAC00 + ((a - 0x1100) * 21 + (b - 0x1161)) * 28)
  else if 0xAC00 ≤ a ∧ a ≤ 0xD7A3 ∧ (a - 0xAC00) % 28 = 0 ∧ 0x11A8 ≤ b ∧ b ≤ 0x11C2 then
    some (a + (b - 0x11A7))
  else (composedPairs.find? fun entry => entry.2 = [a, b]).map (·.1)

/-- The base character being built, the combining characters that stayed behind it, and what came
before, both last first. -/
structure Composer where
  done : List Nat
  base : Option Nat
  marks : List Nat

/-- All that has been read, last first. -/
def Composer.flush (s : Composer) : List Nat :=
  s.marks ++ s.base.toList ++ s.done

/-- Takes the next character. It joins the base unless another one of its class or a higher one
stands between them. -/
def Composer.next (s : Composer) (n : Nat) : Composer :=
  let cls := combiningClass n
  let blocked := match s.marks with
    | [] => false
    | last :: _ => cls ≤ combiningClass last
  match s.base.bind (compose? · n) with
  | some joined =>
    if blocked then
      if cls = 0 then ⟨s.flush, some n, []⟩ else { s with marks := n :: s.marks }
    else { s with base := some joined }
  | none =>
    if cls = 0 then ⟨s.flush, some n, []⟩ else { s with marks := n :: s.marks }

/-- The canonical composition of a text. -/
def composition (cs : List Nat) : List Nat :=
  ((decompose cs).foldl Composer.next ⟨[], none, []⟩).flush.reverse

end JsonSchema.Unicode
