/-!
# Punycode

A label with characters beyond ASCII is written in ASCII alone: first its ASCII characters, then,
in ascending order, where each other character is inserted. The insertions are differences in a
mixed radix whose digits adapt to the size of the differences seen so far.
-/

namespace JsonSchema.Idna.Punycode

/-- The character of a digit below 36. -/
def digitChar (d : Nat) : Char :=
  if d < 26 then Char.ofNat (97 + d) else Char.ofNat (22 + d)

/-- The digit that a character writes. -/
def digitValue? (c : Char) : Option Nat :=
  if 'a' ≤ c ∧ c ≤ 'z' then some (c.toNat - 97)
  else if 'A' ≤ c ∧ c ≤ 'Z' then some (c.toNat - 65)
  else if '0' ≤ c ∧ c ≤ '9' then some (c.toNat - 22)
  else none

/-- The least value that ends a number at the digit of weight position `k`. -/
def threshold (k bias : Nat) : Nat :=
  if k ≤ bias then 1 else if bias + 26 ≤ k then 26 else k - bias

/-- Divides by 35 until the difference is small, counting 36 each time. -/
def scaleDown (delta k : Nat) : Nat × Nat :=
  if 455 < delta then scaleDown (delta / 35) (k + 36) else (delta, k)
termination_by delta

/-- The bias after a difference was written, when `count` characters are in place. -/
def adapt (delta count : Nat) (first : Bool) : Nat :=
  let delta := if first then delta / 700 else delta / 2
  let (delta, k) := scaleDown (delta + delta / count) 0
  k + 36 * delta / (delta + 38)

/-! ## Writing -/

/-- The digits of a difference. The fuel is the number of digits at most. -/
def writeNumber (bias : Nat) : Nat → Nat → Nat → List Char
  | 0, _, _ => []
  | fuel + 1, k, q =>
    let t := threshold k bias
    if q < t then [digitChar q]
    else digitChar (t + (q - t) % (36 - t)) :: writeNumber bias fuel (k + 36) ((q - t) / (36 - t))

/-- What has been written, the difference that is due, the bias, and the characters in place. -/
structure Writer where
  output : List Char
  delta : Nat
  bias : Nat
  placed : Nat

/-- Passes one character of the label while the characters with code `m` are inserted. -/
def Writer.pass (basic m : Nat) (w : Writer) (c : Char) : Writer :=
  if c.toNat < m then { w with delta := w.delta + 1 }
  else if c.toNat = m then
    { output := w.output ++ writeNumber w.bias (w.delta + 1) 36 w.delta
      delta := 0
      bias := adapt w.delta (w.placed + 1) (w.placed = basic)
      placed := w.placed + 1 }
  else w

/-- Inserts the characters with the given ascending codes. -/
def Writer.insertAll (label : List Char) (basic : Nat) : List Nat → Nat → Writer → Writer
  | [], _, w => w
  | m :: rest, next, w =>
    let w := { w with delta := w.delta + (m - next) * (w.placed + 1) }
    let w := label.foldl (Writer.pass basic m) w
    insertAll label basic rest (m + 1) { w with delta := w.delta + 1 }

/-- The written form of a label. -/
def encode (label : List Char) : List Char :=
  let basic := label.filter (·.toNat < 0x80)
  let others := ((label.filter (0x80 ≤ ·.toNat)).map Char.toNat).eraseDups.mergeSort
  let w := Writer.insertAll label basic.length others 128 ⟨[], 0, 72, basic.length⟩
  basic ++ (if basic.isEmpty then [] else ['-']) ++ w.output

/-! ## Reading -/

/-- Reads one difference, added to the position so far. Numbers of more than 32 bits are
refused. -/
def readNumber (bias : Nat) : List Char → Nat → Nat → Nat → Option (Nat × List Char)
  | [], _, _, _ => none
  | c :: rest, k, weight, i => do
    let d ← digitValue? c
    let i := i + d * weight
    if 0x100000000 ≤ i then none
    else
      let t := threshold k bias
      if d < t then some (i, rest)
      else if 0x100000000 ≤ weight * (36 - t) then none
      else readNumber bias rest (k + 36) (weight * (36 - t)) i

/-- Inserts characters until the input is used up, which takes at least one character each time. -/
def readInsertions : Nat → List Char → Nat → Nat → Nat → List Char → Option (List Char)
  | 0, _, _, _, _, _ => none
  | _ + 1, [], _, _, _, output => some output
  | fuel + 1, input, code, i, bias, output => do
    let (position, rest) ← readNumber bias input 36 1 i
    let count := output.length + 1
    let bias := adapt (position - i) count (i = 0)
    let code := code + position / count
    if code.isValidChar then
      let place := position % count
      readInsertions fuel rest code (place + 1) bias
        (output.take place ++ Char.ofNat code :: output.drop place)
    else none

/-- Splits before the last hyphen. -/
def splitLastHyphen (input : List Char) : List Char × List Char :=
  match input.reverse.span (· ≠ '-') with
  | (tail, '-' :: front) => (front.reverse, tail.reverse)
  | _ => ([], input)

/-- The label with a written form. -/
def decode (input : List Char) : Option (List Char) :=
  let (basic, extended) := splitLastHyphen input
  readInsertions (extended.length + 1) extended 128 0 72 basic

end JsonSchema.Idna.Punycode
