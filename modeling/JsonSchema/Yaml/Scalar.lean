import JsonSchema.Text.Digits
import JsonSchema.Yaml.Basic

/-!
# Scalars of YAML

A plain scalar stands for the null, a boolean or a number where it is written like one, and for a
string otherwise. Whole numbers have a radix of ten, or sixteen, eight and two behind `0x`, `0o` and
`0b`; one with zeros in front is no number. A tag of the core schema overrules this.
-/

namespace JsonSchema

namespace Yaml

/-- The null. -/
def isNullText (s : String) : Bool := ["null", "Null", "NULL", "~"].contains s

/-- The booleans. -/
def boolean? (s : String) : Option Bool :=
  if ["true", "True", "TRUE"].contains s then some true
  else if ["false", "False", "FALSE"].contains s then some false
  else none

/-! ## Whole numbers -/

/-- Adds a digit to a number, if it is one of the radix. -/
def addDigit? (radix n : Nat) (c : Char) : Option Nat := do
  let d ← hexValue? c
  if d < radix then some (radix * n + d) else none

/-- The number that digits write in a radix. -/
def natural? (radix : Nat) (ds : List Char) : Option Nat :=
  if ds.isEmpty then none else ds.foldlM (addDigit? radix) 0

/-- A text without the plus sign in front of it. -/
def withoutPlus : List Char → List Char
  | '+' :: rest => rest
  | cs => cs

/-- Whether there is a minus sign, and what follows the sign. -/
def splitSign : List Char → Bool × List Char
  | '-' :: rest => (true, rest)
  | cs => (false, withoutPlus cs)

/-- Digits with a zero in front, after any sign: no number. -/
def hasLeadingZero (cs : List Char) : Bool :=
  match (splitSign cs).2 with
  | '0' :: c :: rest => (c :: rest).all isDigit
  | _ => false

/-- Reads a number behind the mark of its radix, or in radix ten. -/
def radixNumber? : List Char → Option Nat
  | '0' :: 'x' :: ds => natural? 16 ds
  | '0' :: 'o' :: ds => natural? 8 ds
  | '0' :: 'b' :: ds => natural? 2 ds
  | ds => natural? 10 ds

/-- The whole number that a text writes, if it is below the limits of long words. Anything longer
counts as no whole number. -/
def integer? (cs : List Char) : Option Int :=
  let (negative, ds) := splitSign cs
  if hasLeadingZero cs then none
  else (radixNumber? ds).bind fun n =>
    if negative then if n ≤ 0x80000000000000000000000000000000 then some (-(n : Int)) else none
    else if n < 0x100000000000000000000000000000000 then some n else none

/-! ## Doubles -/

/-- The digits behind a point, if there is one, and what follows them. -/
def splitFraction : List Char → List Char × List Char
  | '.' :: rest => (digitsOf rest, rest.drop (digitsOf rest).length)
  | cs => ([], cs)

/-- The exponent at the end of a decimal, which may be left out. -/
def exponent? : List Char → Option Int
  | [] => some 0
  | e :: rest =>
    let (below, ds) := splitSign rest
    if (e = 'e' ∨ e = 'E') ∧ ¬ds.isEmpty ∧ ds.all isDigit then
      some (if below then -(digitsValue ds : Int) else digitsValue ds)
    else none

/-- The double that a decimal writes, if it is finite. -/
def decimal? (cs : List Char) : Option Binary64 :=
  let (negative, cs) := splitSign cs
  let whole := digitsOf cs
  let (fraction, cs) := splitFraction (cs.drop whole.length)
  if whole.isEmpty ∧ fraction.isEmpty then none
  else (exponent? cs).bind fun e =>
    Binary64.ofDecimal negative (digitsValue (whole ++ fraction)) (e - fraction.length)

/-- A text whose plus sign is not followed by another sign. -/
def hasOneSign : List Char → Bool
  | '+' :: '+' :: _ => false
  | '+' :: '-' :: _ => false
  | _ => true

/-- The floating point number that a text writes. -/
def float? (s : String) : Option Yaml :=
  let cs := s.toList
  let bare := String.ofList (withoutPlus cs)
  if ¬hasOneSign cs then none
  else if [".inf", ".Inf", ".INF"].contains bare then some (.nonFinite (.infinity false))
  else if ["-.inf", "-.Inf", "-.INF"].contains s then some (.nonFinite (.infinity true))
  else if [".nan", ".NaN", ".NAN"].contains s then some (.nonFinite .nan)
  else (decimal? cs).map fun x => .number (.float x)

/-- A whole number as a value, if it fits. -/
def ofInteger? (n : Int) : Option Yaml :=
  if h : FitsWord n then some (.number (.integer n h)) else none

/-- The value of a plain scalar. There is none for a whole number that does not fit. -/
def ofPlain? (s : String) : Option Yaml :=
  if s = "" ∨ isNullText s then some .null
  else match boolean? s with
    | some b => some (.bool b)
    | none => match integer? s.toList with
      | some n => ofInteger? n
      | none =>
        if hasLeadingZero s.toList then some (.string s) else some ((float? s).getD (.string s))

/-- The tags of the core schema begin so. -/
def coreTag (name : String) : String := "tag:yaml.org,2002:" ++ name

/-- The value of a scalar with a tag that is not its own. -/
def ofTagged? (tag s : String) : Option Yaml :=
  if tag = coreTag "bool" then (boolean? s).map .bool
  else if tag = coreTag "int" then (integer? s.toList).bind ofInteger?
  else if tag = coreTag "float" then float? s
  else if tag = coreTag "null" then if isNullText s then some .null else none
  else some (.string s)

end Yaml
end JsonSchema
