import JsonSchema.Proofs.Compilation.Run
import JsonSchema.Proofs.Number.Count
import JsonSchema.Validation.Explain

/-!
# Limits on sizes

The keywords that limit how many characters or items there are take a number. The count that it
writes is what the compiled keyword holds sizes against and what it reports, and a number that
writes no count is refused.
-/

namespace JsonSchema

open Compile Meaning

/-- A size that keywords limit. -/
inductive Extent
  | characters
  | items

namespace Extent

/-- The size of a value, if it has one. -/
def size? : Extent → Value → Option Nat
  | characters => stringSize?
  | items => arraySize?

/-- The keyword that limits the size on a side. -/
def keyword : Extent → Side → Keyword
  | characters => .length
  | items => .itemCount

/-- The name of the keyword. -/
def name : Extent → Side → String
  | characters, .min => "minLength"
  | characters, .max => "maxLength"
  | items, .min => "minItems"
  | items, .max => "maxItems"

/-- The check of a size against a limit. -/
def check : Extent → Side → Nat → Check
  | characters => .length
  | items => .itemCount

/-- The failure of a size that passes a limit. -/
def failure : Extent → Side → Nat → Failure
  | characters => .length
  | items => .itemCount

/-- The name of what is counted. -/
def noun : Extent → String
  | characters => "character"
  | items => "item"

/-- A size is on a side of a limit, or is the limit. -/
def Within (size limit : Nat) : Side → Prop
  | .min => limit ≤ size
  | .max => size ≤ limit

/-- A node holds sizes against a limit, and this is the limit that it reports. -/
structure Limits (e : Extent) (side : Side) (limit : Nat) (node : Node) : Prop where
  /-- Values of another type have no size, and are accepted. -/
  accepts : ∀ slots steps v, node.accepts slots (steps + 1) v = true ↔
    ∀ size, e.size? v = some size → Within size limit side
  reports : ∀ slots steps v path,
    node.explain slots (steps + 1) v path = .leaf node.location path v (e.failure side limit)
  details : ∃ n : Number, (e.failure side limit).details = [("limit", .number n)] ∧ n.value = limit
  message : ∀ v, ∃ start, (e.failure side limit).message v = start ++ Failure.counted limit e.noun

variable {e : Extent} {side : Side} {k : Nat} {v : Value}

theorem ofName?_name (e : Extent) (side : Side) :
    Keyword.ofName? (e.name side) = some (e.keyword side) := by
  cases e <;> cases side <;> rfl

theorem holds_check_iff :
    (e.check side k).holds v = true ↔ ∀ size, e.size? v = some size → Within size k side := by
  cases e <;> cases side <;> cases v <;>
    simp [check, Check.holds, size?, stringSize?, arraySize?, Side.admits, Within]

theorem failure_check : (e.check side k).failure v = e.failure side k := by
  cases e <;> rfl

theorem limits_check (l : SchemaLocation) (h : k < 2 ^ 64) :
    e.Limits side k (.check l (e.check side k)) where
  accepts _ _ _ := holds_check_iff
  reports slots steps v path := by
    rw [Node.explain, Node.explainStep, failure_check]
    rfl
  details := ⟨.ofCount k, by cases e <;> rfl, Number.value_ofCount h⟩
  message v := by
    cases e <;> cases side <;> exact ⟨_, rfl⟩

variable {settings : Settings} {fuel : Nat} {c : Context} {members : List (String × Value)}
variable {n : Number} {s : State}

/-- The keyword is compiled from the count that the number writes. -/
theorem outcome_compileMember :
    outcome (compileMember settings (fuel + 1) c members (e.name side) (.number n)) s =
      match n.count? with
      | some k => (.ok (some (.check (c.key (e.name side)).location (e.check side k))), s)
      | none => (.error ((c.key (e.name side)).invalid (e.name side) .notCount), s) := by
  have hname := ofName?_name e side
  generalize e.name side = name at hname ⊢
  cases e <;> simp only [keyword] at hname <;>
    simp only [compileMember, hname, readCheck, readCount] <;> cases n.count? <;> rfl

end Extent

namespace Number

variable {n : Number} {k : Nat}

/-- As the value of any keyword that limits a size, a number is compiled into a limit. -/
def SetsLimit (n : Number) (limit : Nat) : Prop :=
  ∀ (e : Extent) (side : Side) settings fuel c members s, ∃ node,
    outcome (compileMember settings (fuel + 1) c members (e.name side) (.number n)) s =
      (.ok (some node), s) ∧ e.Limits side limit node

/-- As the value of any keyword that limits a size, a number is refused for what it is. -/
def SetsNoLimit (n : Number) : Prop :=
  ∀ (e : Extent) (side : Side) settings fuel c members s,
    outcome (compileMember settings (fuel + 1) c members (e.name side) (.number n)) s =
      (.error ((c.key (e.name side)).invalid (e.name side) .notCount), s)

theorem setsLimit_of_count? (h : n.count? = some k) (hlt : k < 2 ^ 64) : n.SetsLimit k := by
  intro e side settings fuel c members s
  refine ⟨.check (c.key (e.name side)).location (e.check side k), ?_, Extent.limits_check _ hlt⟩
  rw [Extent.outcome_compileMember, h]

theorem setsNoLimit_of_count? (h : n.count? = none) : n.SetsNoLimit := by
  intro e side settings fuel c members s
  rw [Extent.outcome_compileMember, h]

/-- A number is read as the count that is its value, and as none if its value is no count. -/
structure ReadAsWritten (n : Number) : Prop where
  count : ∀ k : Nat, n.count? = some k ↔ n.value = k ∧ k < 2 ^ 64
  sets : ∀ k : Nat, n.value = k → k < 2 ^ 64 → n.SetsLimit k
  refused : (¬∃ k : Nat, n.value = k ∧ k < 2 ^ 64) → n.SetsNoLimit

/-- All numbers are read as they are written but `2 ^ 64`, which sets the limit `2 ^ 64 - 1`. -/
theorem readAsWritten_iff (n : Number) :
    (n.ReadAsWritten ↔ n.value ≠ 2 ^ 64) ∧ (n.value = 2 ^ 64 → n.SetsLimit (2 ^ 64 - 1)) := by
  refine ⟨⟨fun h hexcess => ?_, fun h => ?_⟩, fun hexcess => ?_⟩
  · obtain ⟨hvalue, -⟩ := (h.count (2 ^ 64 - 1)).mp (count?_eq_some_iff.mpr (.inr ⟨hexcess, rfl⟩))
    rw [hexcess] at hvalue
    norm_num at hvalue
  · have hcount (k : Nat) : n.count? = some k ↔ n.value = k ∧ k < 2 ^ 64 := by
      rw [count?_eq_some_iff, or_iff_left fun hexcess => h hexcess.1]
    refine ⟨hcount, fun k hvalue hlt => setsLimit_of_count? ((hcount k).mpr ⟨hvalue, hlt⟩) hlt, ?_⟩
    intro hnone
    refine setsNoLimit_of_count? (Option.eq_none_iff_forall_ne_some.mpr fun k hk => ?_)
    exact hnone ⟨k, (hcount k).mp hk⟩
  · exact setsLimit_of_count? (count?_eq_some_iff.mpr (.inr ⟨hexcess, rfl⟩)) (by decide)

/-- The number `2 ^ 64`, kept as a double. -/
def excess : Number := .float ⟨false, 0x43F0000000000000, by decide⟩

/-- The double before it, `2 ^ 64 - 2 ^ 11`. -/
def beforeExcess : Number := .float ⟨false, 0x43EFFFFFFFFFFFFF, by decide⟩

theorem value_excess : excess.value = 2 ^ 64 := by
  have hvalue : excess.value = (2 ^ 64 : Int) := value_of_units_eq (by decide +kernel)
  exact_mod_cast hvalue

theorem readAsWritten_beforeExcess :
    beforeExcess.value ≠ 2 ^ 64 ∧ beforeExcess.ReadAsWritten ∧
      beforeExcess.SetsLimit (2 ^ 64 - 2 ^ 11) ∧ excess.value = 2 ^ 64 ∧
      excess.SetsLimit (2 ^ 64 - 1) := by
  have hne : beforeExcess.value ≠ 2 ^ 64 := by
    rw [← value_excess, Ne, value_eq_iff]
    decide +kernel
  have hread := (readAsWritten_iff beforeExcess).1.mpr hne
  obtain ⟨hvalue, hlt⟩ := (hread.count (2 ^ 64 - 2 ^ 11)).mp (by decide +kernel)
  exact ⟨hne, hread, hread.sets _ hvalue hlt, value_excess,
    (readAsWritten_iff excess).2 value_excess⟩

/-- The number `2 ^ 64` is no count of 64 bits, and is read as the largest one. -/
theorem count?_excess :
    excess.value = 2 ^ 64 ∧ excess.count? = some (2 ^ 64 - 1) ∧
      ¬(excess.value = (2 ^ 64 - 1 : Nat) ∧ 2 ^ 64 - 1 < 2 ^ 64) ∧
      readCount (.number excess) = .ok (2 ^ 64 - 1) := by
  have hcount : excess.count? = some (2 ^ 64 - 1) := by decide +kernel
  refine ⟨value_excess, hcount, ?_, ?_⟩
  · rw [value_excess]
    norm_num
  · rw [readCount, hcount]

end Number
end JsonSchema
