import JsonSchema.Idna.DirectionData
import JsonSchema.Idna.JoiningData
import JsonSchema.Idna.Mapping
import JsonSchema.Unicode.Named

/-!
# Valid labels

A label of a mapped name may not begin with a combining mark, may hold a joiner only where it
changes how letters look, and in a name with right-to-left characters must keep to the rule that
lets it be told where it begins and ends.
-/

namespace JsonSchema.Idna

/-! ## Joiners -/

/-- The sets of the joining types. -/
def joiningTypes : List (String × CodeSet) :=
  JoiningData.types.map fun entry => (entry.1, CodeSet.ofRuns entry.2)

/-- The joining type of a code point. -/
def joiningType (n : Nat) : String :=
  ((joiningTypes.find? fun entry => entry.2.has n).map (·.1)).getD "U"

/-- Whether the first code point that is not transparent has one of two types. -/
def meets (a b : String) : List Nat → Bool
  | [] => false
  | n :: rest =>
    let t := joiningType n
    if t = "T" then meets a b rest else t = a || t = b

/-- Whether the joiners of a label are in place; what came before is given last first. -/
def joinersOk (before : List Nat) : List Nat → Bool
  | [] => true
  | n :: rest =>
    let afterVirama := before.head?.any (Unicode.combiningClass · == 9)
    let ok := if n = 0x200C then afterVirama || (meets "L" "D" before && meets "R" "D" rest)
      else if n = 0x200D then afterVirama
      else true
    ok && joinersOk (n :: before) rest

/-! ## Direction -/

/-- The sets of the directional classes. -/
def directionClasses : List (String × CodeSet) :=
  DirectionData.classes.map fun entry => (entry.1, CodeSet.ofRuns entry.2)

/-- The directional class of a code point. -/
def direction (n : Nat) : String :=
  ((directionClasses.find? fun entry => entry.2.has n).map (·.1)).getD "L"

/-- A name needs the rule of direction if it has a right-to-left letter or an Arabic number. -/
def needsDirection (cs : List Nat) : Bool :=
  cs.any fun n => ["R", "AL", "AN"].contains (direction n)

/-- The rule of direction for a label. -/
def directionOk (label : List Nat) : Bool :=
  let classes := label.map direction
  let last := (classes.reverse.dropWhile (· = "NSM")).head?
  match classes.head? with
  | none => true
  | some "L" =>
    classes.all (["L", "EN", "ES", "CS", "ET", "ON", "BN", "NSM"].contains ·) &&
      last.any (["L", "EN"].contains ·)
  | some first =>
    (first = "R" || first = "AL") &&
      classes.all (["R", "AL", "AN", "EN", "ES", "CS", "ET", "ON", "BN", "NSM"].contains ·) &&
      last.any (["R", "AL", "EN", "AN"].contains ·) &&
      !(classes.contains "EN" && classes.contains "AN")

/-! ## Labels -/

/-- The combining marks. -/
def marks : CodeSet := Unicode.category "M"

/-- Whether a label that is not all ASCII is well formed. -/
def labelOk (label : List Nat) : Bool :=
  !label.head?.any marks.has && joinersOk [] label

end JsonSchema.Idna
