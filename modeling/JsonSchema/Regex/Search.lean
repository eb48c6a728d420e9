import JsonSchema.Regex.Basic

/-!
# Searching a text

The places of a text of `n` characters are numbered from `0` to `n`. A set of places is a natural
number whose binary digits say which places belong to it. An expression takes the set of places
where a match may begin to the set of places where one may end, so the search never tries the same
place twice, whatever the expression.
-/

namespace JsonSchema.Regex

/-- Places of a text, as binary digits. -/
abbrev Places := Nat

/-- What an atom does in a given text: step over the characters of some places, or stay at some
places. -/
inductive Move
  | step (places : Places)
  | stay (places : Places)

/-- The places for which a test holds, numbered from `i`. -/
def placesWhere (test : Option Char → Option Char → Bool) (before : Option Char) (i : Nat) :
    List Char → Places
  | [] => if test before none then 1 <<< i else 0
  | c :: rest =>
    (if test before (some c) then 1 <<< i else 0) ||| placesWhere test (some c) (i + 1) rest

/-- The move of an atom in a text. -/
def Atom.move (text : List Char) : Atom → Move
  | .oneOf set => .step (placesWhere (fun _ after => Look.isIn set after) none 0 text)
  | .look l => .stay (placesWhere l.holds none 0 text)

/-- The places reached by a move. -/
def Move.image (s : Places) : Move → Places
  | .step p => (s &&& p) <<< 1
  | .stay p => s &&& p

/-- Repeats a step up to a number of times, each time from the new places only, and keeps all that
was reached. Every round adds a place, so as many rounds as there are places exhaust the step. -/
def closure (step : Places → Places) : Nat → Places → Places → Places
  | 0, seen, _ => seen
  | count + 1, seen, fresh =>
    let reached := step fresh
    let fresh := reached ^^^ (reached &&& seen)
    if fresh = 0 then seen else closure step count (seen ||| fresh) fresh

/-- Repeats a step exactly a number of times. -/
def times (step : Places → Places) : Nat → Places → Places
  | 0, s => s
  | count + 1, s =>
    let next := step s
    if next = s then s else times step count next

/-- The places where a match that begins in `s` may end, in a text with fewer than `rounds`
places. -/
def image (rounds : Nat) : Regex Move → Places → Places
  | .empty, s => s
  | .atom m, s => m.image s
  | .seq r t, s => image rounds t (image rounds r s)
  | .alt r t, s => image rounds r s ||| image rounds t s
  | .rep r min max, s =>
    let start := times (image rounds r) min s
    let more := match max with
      | none => rounds
      | some max => max - min
    closure (image rounds r) more start start

/-- Whether some stretch of the text matches. -/
def isMatch (r : Regex Atom) (text : String) : Bool :=
  let cs := text.toList
  let everywhere := 1 <<< (cs.length + 1) - 1
  image (cs.length + 2) (r.map (Atom.move cs)) everywhere != 0

end JsonSchema.Regex
