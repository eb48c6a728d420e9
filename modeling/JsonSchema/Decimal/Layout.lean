import JsonSchema.Decimal.Shortest

/-!
# Writing doubles

The digits of a double are its shortest decimal. How they are set out (where positional notation
ends, whether a whole number keeps a point, how an exponent is signed) is a `Layout`, and each
text format names its own.
-/

namespace JsonSchema.Decimal

/-- How the digits of a double are set out. -/
structure Layout where
  /-- Exponents of the leading digit that are written positionally; all of them if absent. -/
  positional : Option (Int × Int)
  /-- What follows the last digit of a whole number written positionally. -/
  wholeSuffix : String
  /-- The sign of a positive exponent. -/
  plus : String
  /-- Where an exact tie between two shortest decimals goes. -/
  tie : Tie

namespace Layout

/-- JSON text: positional from `1e-5` to below `1e16`, a whole number ends in `.0`, and a positive
exponent has a plus sign. -/
def json : Layout := ⟨some (-5, 15), ".0", "+", .toEven⟩

/-- YAML text: as in JSON text, without the plus sign. -/
def yaml : Layout := ⟨some (-5, 15), ".0", "", .toEven⟩

/-- Running text: never an exponent, and no point in a whole number. -/
def plain : Layout := ⟨none, "", "", .up⟩

/-- Digits with the point after the digit of weight one. -/
def fixed (layout : Layout) (d : Decimal) : String :=
  let ds := Nat.toDigits 10 d.digits
  if 0 ≤ d.exponent then
    String.ofList (ds ++ List.replicate d.exponent.toNat '0') ++ layout.wholeSuffix
  else
    let places := (-d.exponent).toNat
    let padded := List.replicate (places + 1 - ds.length) '0' ++ ds
    let whole := padded.length - places
    String.ofList (padded.take whole ++ '.' :: padded.drop whole)

/-- One digit, the point and the others, then the exponent of the first digit. -/
def scientific (layout : Layout) (d : Decimal) (leading : Int) : String :=
  let mantissa := match Nat.toDigits 10 d.digits with
    | first :: second :: rest => first :: '.' :: second :: rest
    | short => short
  let exponent := if leading < 0 then "-" ++ toString leading.natAbs
    else layout.plus ++ toString leading.natAbs
  String.ofList mantissa ++ "e" ++ exponent

/-- The text of a positive decimal. -/
def decimal (layout : Layout) (d : Decimal) : String :=
  let leading := d.exponent + (Nat.toDigits 10 d.digits).length - 1
  match layout.positional with
  | none => layout.fixed d
  | some (low, high) =>
    if low ≤ leading ∧ leading ≤ high then layout.fixed d else layout.scientific d leading

/-- The text of a finite double. -/
def text (layout : Layout) (x : Binary64) : String :=
  let body := if x.rank = 0 then "0" ++ layout.wholeSuffix
    else layout.decimal (shortest layout.tie x)
  if x.negative then "-" ++ body else body

end Layout
end JsonSchema.Decimal
