import JsonSchema.Regex.Escape

/-!
# Bracketed classes

A class is a union of characters, ranges and other classes. Two unions may be joined by an operator,
which applies from left to right. Nested classes count towards the nesting of the expression.
-/

namespace JsonSchema.Regex

/-- A class under construction. -/
structure ClassSet where
  set : CodeSet
  depth : Nat

/-- Operators between the parts of a class. -/
inductive ClassOp
  | inter
  | diff
  | symmDiff

/-- The union of the items between two operators. -/
def ClassSet.union : List ClassSet → ClassSet
  | [] => ⟨.empty, 0⟩
  | [item] => item
  | items =>
    ⟨CodeSet.unions (items.map (·.set)), 1 + (items.map (·.depth)).foldl max 0⟩

/-- Applies an operator, with both sides closed under case if case is ignored. -/
def ClassOp.apply (flags : Flags) (op : ClassOp) (a b : ClassSet) : ClassSet :=
  let fold (s : CodeSet) : CodeSet :=
    if flags.ignoreCase then (if flags.unicode then s.foldCase else s.foldAsciiCase) else s
  let (s, t) := (fold a.set, fold b.set)
  let result := match op with
    | .inter => s.inter t
    | .diff => s.diff t
    | .symmDiff => s.symmDiff t
  ⟨result, 1 + max a.depth b.depth⟩

/-- The items so far, as the right side of a pending operator if there is one. -/
def finishItems (flags : Flags) (pending : Option (ClassOp × ClassSet)) (items : List ClassSet) :
    ClassSet :=
  match pending with
  | none => .union items.reverse
  | some (op, left) => op.apply flags left (.union items.reverse)

/-- Reads a class of ASCII in brackets and colons, after its opening bracket. -/
def asciiClass (flags : Flags) (cs : List Char) : Option (ClassSet × List Char) :=
  match cs with
  | ':' :: rest =>
    let (negated, rest) := match rest with
      | '^' :: rest => (true, rest)
      | _ => (false, rest)
    match rest.span (· ≠ ':') with
    | (name, ':' :: ']' :: rest) =>
      (asciiClass? (String.ofList name)).bind fun s =>
        (finishClass? flags negated s).map fun s => (⟨s, 0⟩, rest)
    | _ => none
  | _ => none

/-- Whether an opening bracket begins a class of ASCII. -/
def beginsAsciiClass (cs : List Char) : Bool :=
  match cs with
  | ':' :: rest =>
    let rest := match rest with
      | '^' :: rest => rest
      | _ => rest
    match rest.span (· ≠ ':') with
    | (name, ':' :: ']' :: _) => (asciiClass? (String.ofList name)).isSome
    | _ => false
  | _ => false

/-- The character of a literal inside a class. Outside Unicode mode it must be ASCII. -/
def classLiteral? (flags : Flags) : Primitive → Option Char
  | .literal c _ => if flags.unicode || c.toNat < 0x80 then some c else none
  | _ => none

/-- An item of a class by itself. -/
def classItem? (flags : Flags) : Primitive → Option ClassSet
  | .class s => some ⟨s, 0⟩
  | .look _ => none
  | p => (classLiteral? flags p).map fun c => ⟨.single c, 0⟩

/-- Reads a character or an escape inside a class. -/
def classPrimitive (flags : Flags) : List Char → Option (Primitive × List Char)
  | [] => none
  | '\\' :: rest => escape flags rest
  | c :: rest => some (.literal c false, rest)

/-- Reads a character, an escape or a range. -/
def classRange (flags : Flags) (cs : List Char) : Option (ClassSet × List Char) := do
  let (first, rest) ← classPrimitive flags cs
  match skip flags.extended rest with
  | [] => none
  | '-' :: after =>
    let next := peekBehind flags.extended after
    if next = some ']' ∨ next = some '-' then
      some (← classItem? flags first, '-' :: after)
    else
      let after := skip flags.extended after
      if after.isEmpty then none
      else
        let (last, rest) ← classPrimitive flags after
        let low ← classLiteral? flags first
        let high ← classLiteral? flags last
        if low ≤ high then some (⟨.range low.toNat high.toNat, 0⟩, rest) else none
  | rest => some (← classItem? flags first, rest)

/-- Reads the hyphens at the start of a class, which stand for themselves. -/
def leadingHyphens (extended : Bool) : Nat → List Char → Nat × List Char
  | 0, cs => (0, cs)
  | fuel + 1, cs => match cs with
    | '-' :: rest =>
      let (n, rest) := leadingHyphens extended fuel (skip extended rest)
      (n + 1, rest)
    | _ => (0, cs)

/-- Reads the start of a class after its bracket: a negation, hyphens, and a closing bracket that
stands for itself because nothing came before it. -/
def openClass (extended : Bool) (cs : List Char) : Option (Bool × List ClassSet × List Char) :=
  let cs := skip extended cs
  let (negated, cs) := match cs with
    | '^' :: rest => (true, skip extended rest)
    | _ => (false, cs)
  let (hyphens, cs) := leadingHyphens extended cs.length cs
  let items := List.replicate hyphens (ClassSet.mk (.single '-') 0)
  match cs with
  | [] => none
  | ']' :: rest =>
    if hyphens = 0 then
      match skip extended rest with
      | [] => none
      | rest => some (negated, [⟨.single ']', 0⟩], rest)
    else some (negated, items, cs)
  | _ => some (negated, items, cs)

/-- Reads the rest of a class up to its closing bracket. -/
def classBody (flags : Flags) : Nat → Bool → Option (ClassOp × ClassSet) → List ClassSet →
    List Char → Option (ClassSet × List Char)
  | 0, _, _, _, _ => none
  | fuel + 1, negated, pending, items, cs =>
    match skip flags.extended cs with
    | [] => none
    | ']' :: rest =>
      let inner := finishItems flags pending items
      (finishClass? flags negated inner.set).map fun s => (⟨s, 1 + inner.depth⟩, rest)
    | '[' :: rest =>
      if beginsAsciiClass rest then do
        let (item, rest) ← asciiClass flags rest
        classBody flags fuel negated pending (item :: items) rest
      else do
        let (innerNegated, innerItems, rest) ← openClass flags.extended rest
        let (item, rest) ← classBody flags fuel innerNegated none innerItems rest
        classBody flags fuel negated pending (item :: items) rest
    | '&' :: '&' :: rest =>
      classBody flags fuel negated (some (.inter, finishItems flags pending items)) [] rest
    | '-' :: '-' :: rest =>
      classBody flags fuel negated (some (.diff, finishItems flags pending items)) [] rest
    | '~' :: '~' :: rest =>
      classBody flags fuel negated (some (.symmDiff, finishItems flags pending items)) [] rest
    | cs => do
      let (item, rest) ← classRange flags cs
      classBody flags fuel negated pending (item :: items) rest

/-- Reads a class after its opening bracket. -/
def bracketed (flags : Flags) (cs : List Char) : Option (ClassSet × List Char) := do
  let (negated, items, rest) ← openClass flags.extended cs
  classBody flags (2 * cs.length + 2) negated none items rest

end JsonSchema.Regex
