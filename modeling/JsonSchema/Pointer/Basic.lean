/-!
# JSON Pointers

A pointer is a list of reference tokens. Its text writes a slash before each token, `~0` for a
tilde and `~1` for a slash inside one, so every pointer has exactly one text.
-/

namespace JsonSchema

/-- The path to a position in a JSON value. -/
structure Pointer where
  tokens : List String
  deriving DecidableEq, Repr

namespace Pointer

/-- The pointer to the whole value. -/
def root : Pointer := ⟨[]⟩

instance : Inhabited Pointer := ⟨root⟩

/-- The pointer to the whole value has no tokens. -/
def isRoot (p : Pointer) : Bool := p.tokens.isEmpty

/-- One step further down, to the member under a key. -/
def key (p : Pointer) (k : String) : Pointer := ⟨p.tokens ++ [k]⟩

/-- One step further down, to an array element. -/
def index (p : Pointer) (i : Nat) : Pointer := p.key (toString i)

/-- The second pointer followed from where the first one leads. -/
def append (p q : Pointer) : Pointer := ⟨p.tokens ++ q.tokens⟩

instance : Append Pointer := ⟨append⟩

/-- What is left of a list after a beginning that it has. -/
def dropBeginning : List String → List String → Option (List String)
  | [], ys => some ys
  | _ :: _, [] => none
  | x :: xs, y :: ys => if x = y then dropBeginning xs ys else none

/-- The rest of a pointer below another one that it passes through. -/
def below (p ancestor : Pointer) : Option Pointer :=
  (dropBeginning ancestor.tokens p.tokens).map Pointer.mk

/-! ## Text -/

/-- A token as it is written. -/
def encode : List Char → List Char
  | [] => []
  | '~' :: r => '~' :: '0' :: encode r
  | '/' :: r => '~' :: '1' :: encode r
  | c :: r => c :: encode r

/-- Reads a written token; a tilde must be followed by `0` or `1`. -/
def decode : List Char → Option (List Char)
  | [] => some []
  | '~' :: '0' :: r => (decode r).map ('~' :: ·)
  | '~' :: '1' :: r => (decode r).map ('/' :: ·)
  | c :: r => if c = '~' then none else (decode r).map (c :: ·)

/-- The text of a pointer. -/
def text (p : Pointer) : String :=
  String.ofList (p.tokens.flatMap fun t => '/' :: encode t.toList)

/-- The stretches between the slashes. -/
def pieces : List Char → List (List Char)
  | [] => [[]]
  | '/' :: r => [] :: pieces r
  | c :: r => match pieces r with
    | [] => [[c]]
    | p :: ps => (c :: p) :: ps

/-- The pointer with a given text: nothing, or tokens that each follow a slash. -/
def ofText? (s : String) : Option Pointer :=
  match s.toList with
  | [] => some root
  | '/' :: r => ((pieces r).mapM decode).map fun ts => ⟨ts.map String.ofList⟩
  | _ => none

/-- What is said of a text that is no pointer. -/
def invalidMessage (s : String) : String := "invalid JSON pointer '" ++ s ++ "'"

end Pointer
end JsonSchema
