import JsonSchema.Text.Digits

/-!
# Dates and times

A date is year, month and day of the Gregorian calendar, carried back to the year zero. A time
has seconds, perhaps a fraction, and always an offset from universal time. Leap seconds are allowed
in every minute.
-/

namespace JsonSchema.Format

/-- Whether February has 29 days. -/
def isLeapYear (year : Nat) : Bool := year % 4 = 0 && (year % 100 ≠ 0 || year % 400 = 0)

/-- The days of a month. -/
def daysInMonth (year month : Nat) : Nat :=
  if month = 2 then if isLeapYear year then 29 else 28
  else if [4, 6, 9, 11].contains month then 30 else 31

/-- Whether a month of a year has a day. -/
def isCalendarDate (year month day : Nat) : Bool :=
  1 ≤ month && month ≤ 12 && 1 ≤ day && day ≤ daysInMonth year month

/-! ## Reading -/

/-- Reads a number of exactly `count` digits. -/
def readNumber (count : Nat) (cs : List Char) : Option (Nat × List Char) :=
  let ds := cs.take count
  if ds.length = count ∧ ds.all isDigit then some (digitsValue ds, cs.drop count) else none

/-- Passes a separator. -/
def pass (separator : Char) : List Char → Option (List Char)
  | c :: rest => if c = separator then some rest else none
  | [] => none

/-- Reads a date. -/
def readDate (cs : List Char) : Option (List Char) := do
  let (year, cs) ← readNumber 4 cs
  let (month, cs) ← readNumber 2 (← pass '-' cs)
  let (day, cs) ← readNumber 2 (← pass '-' cs)
  if isCalendarDate year month day then some cs else none

/-- Passes a fraction of a second, if there is one; a point needs a digit after it. -/
def readFraction : List Char → Option (List Char)
  | '.' :: rest =>
    let digits := digitsOf rest
    if digits.isEmpty then none else some (rest.drop digits.length)
  | cs => some cs

/-- Reads the offset from universal time, which is less than a day. -/
def readOffset : List Char → Option (List Char)
  | [] => none
  | c :: rest =>
    if c = 'Z' ∨ c = 'z' then some rest
    else if c = '+' ∨ c = '-' ∨ c = '\u2212' then do
      let (hours, rest) ← readNumber 2 rest
      let (minutes, rest) ← readNumber 2 (← pass ':' rest)
      if hours ≤ 23 ∧ minutes ≤ 59 then some rest else none
    else none

/-- Reads a time with its offset. -/
def readTime (cs : List Char) : Option (List Char) := do
  let (hour, cs) ← readNumber 2 cs
  let (minute, cs) ← readNumber 2 (← pass ':' cs)
  let (second, cs) ← readNumber 2 (← pass ':' cs)
  if hour ≤ 23 ∧ minute ≤ 59 ∧ second ≤ 60 then readOffset (← readFraction cs) else none

/-- Whether a text is a date. -/
def isDate (s : String) : Bool := readDate s.toList == some []

/-- Whether a text is a time. -/
def isTime (s : String) : Bool := readTime s.toList == some []

/-- Whether a text is a date and a time with the letter T between them. -/
def isDateTime (s : String) : Bool :=
  match readDate s.toList with
  | some (c :: rest) => (c = 'T' || c = 't') && readTime rest == some []
  | _ => false

end JsonSchema.Format
