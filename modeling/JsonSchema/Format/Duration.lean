import JsonSchema.Unicode.Blank

/-!
# Durations

A duration is a number of weeks, or years, months and days followed by a time part of hours,
minutes and seconds. Components may be left out, but not all of them, nor all behind a `T`. The
decimal digits of every script count as digits.
-/

namespace JsonSchema.Format

/-- A digit of a duration. -/
def isDurationDigit (c : Char) : Bool := Unicode.decimalNumber.contains c

/-- Passes a component: digits and the letter of its unit. -/
def passComponent? (unit : Char) (cs : List Char) : Option (List Char) :=
  match cs.dropWhile isDurationDigit with
  | c :: rest => if c = unit ∧ rest.length + 1 < cs.length then some rest else none
  | [] => none

/-- Passes a component if there is one. -/
def passComponent (unit : Char) (cs : List Char) : List Char :=
  (passComponent? unit cs).getD cs

/-- Passes the components with given units, each of which may be absent. -/
def passComponents (units : List Char) (cs : List Char) : List Char :=
  units.foldl (fun cs unit => passComponent unit cs) cs

/-- Whether nothing but date components and a time part is left. -/
def isDateAndTimePart (cs : List Char) : Bool :=
  match passComponents ['Y', 'M', 'D'] cs with
  | [] => true
  | 'T' :: time => (passComponents ['H', 'M', 'S'] time).isEmpty
  | _ => false

/-- Whether a text is a duration. -/
def isDuration (s : String) : Bool :=
  match s.toList with
  | 'P' :: cs =>
    !cs.isEmpty && cs.getLast? != some 'T' &&
      (passComponent? 'W' cs == some [] || isDateAndTimePart cs)
  | _ => false

end JsonSchema.Format
