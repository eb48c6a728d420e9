import JsonSchema.Schema.Node

/-!
# Cycles of references

A chain of references that returns to a slot without descending into the value would be followed
for ever. Slots are searched depth first, and a reference to a slot that is still being searched
closes a cycle.
-/

namespace JsonSchema.Cycle

/-- The references of a slot that are followed with the same value. -/
def references (slots : List Node) (slot : Nat) : List (SchemaLocation × Nat) :=
  (slots[slot]?).elim [] Node.inPlaceReferences

/-- Clears the slot that a reference leads to, unless it is cleared already. A slot on the path
closes a cycle. -/
def visit (path : List Nat) (search : Nat → List Nat → Except SchemaLocation (List Nat))
    (done : List Nat) (r : SchemaLocation × Nat) : Except SchemaLocation (List Nat) :=
  if path.contains r.2 then .error r.1
  else if done.contains r.2 then .ok done
  else search r.2 done

/-- Searches from a slot. The slots on the way to it are `path`, and those already cleared are
`done`; the result clears more slots, or is the place of a reference that closes a cycle. Each level
adds a slot to the path, so as many levels as there are slots suffice. -/
def search (slots : List Node) : Nat → List Nat → Nat → List Nat →
    Except SchemaLocation (List Nat)
  | 0, _, _, done => .ok done
  | fuel + 1, path, slot, done =>
    ((references slots slot).foldlM (visit (slot :: path) (search slots fuel (slot :: path)))
      done).map (slot :: ·)

/-- Clears a slot with an empty path. -/
def clear (slots : List Node) (done : List Nat) (slot : Nat) :
    Except SchemaLocation (List Nat) :=
  if done.contains slot then .ok done else search slots (slots.length + 1) [] slot done

/-- The place of a reference that closes a cycle, if there is one. -/
def find? (slots : List Node) : Option SchemaLocation :=
  match (List.range slots.length).foldlM (clear slots) [] with
  | .ok _ => none
  | .error l => some l

end JsonSchema.Cycle
