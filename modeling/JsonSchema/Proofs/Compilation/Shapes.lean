import JsonSchema.Proofs.Compilation.Compiled
import JsonSchema.Proofs.Number.Count

/-!
# What keywords take

The shape that the value of each keyword must have, said apart from the functions that read it. They
read exactly the values of that shape. Schemas in a value are not looked into here.
-/

namespace JsonSchema

namespace Number

/-- A whole number that is neither negative nor above `2 ^ 64`. -/
def IsCount (n : Number) : Prop :=
  ∃ k : Nat, k ≤ 0x10000000000000000 ∧ n.units = k * (Binary64.unitsPerOne : Int)

theorem unitsPerOne_pos : 0 < (Binary64.unitsPerOne : Int) :=
  Int.natCast_pos.mpr Binary64.unitsPerOne_pos

theorem isPositive_iff (n : Number) : n.isPositive = true ↔ 0 < n.units := by
  cases n with
  | integer n _ =>
      have hunit := unitsPerOne_pos
      rw [isPositive, decide_eq_true_iff, units]
      generalize (Binary64.unitsPerOne : Int) = unit at hunit
      constructor
      · exact fun h => Int.mul_pos h hunit
      · exact fun h => Int.pos_of_mul_pos_left h hunit
  | float x => simp [isPositive, units]

theorem isCount_iff (n : Number) : n.IsCount ↔ ∃ k : Nat, n.value = k ∧ k ≤ 2 ^ 64 := by
  constructor
  · rintro ⟨k, hle, hunits⟩
    have hvalue := value_of_units_eq hunits
    exact ⟨k, by exact_mod_cast hvalue, hle⟩
  · rintro ⟨k, hvalue, hle⟩
    exact ⟨k, hle, units_eq_of_value (by exact_mod_cast hvalue)⟩

/-- The counts are read from the numbers that are counts. -/
theorem isSome_count?_iff (n : Number) : n.count?.isSome = true ↔ n.IsCount := by
  rw [isCount_iff, Option.isSome_iff_ne_none, Ne, count?_eq_none_iff, not_not]

end Number

/-- A value is a string. -/
def Value.IsString (v : Value) : Prop := ∃ s, v = .string s

/-- A value may be a schema: a boolean or an object. -/
def Value.IsSchema (v : Value) : Prop := (∃ b, v = .bool b) ∨ ∃ members, v = .object members

/-- A value is the name of a type. -/
def Value.IsTypeName (v : Value) : Prop :=
  ∃ name t, v = .string name ∧ TypeName.ofText? name = some t

/-- The shape of the value that a keyword takes. -/
def Keyword.Takes : Keyword → Value → Prop
  | ref, v | format, v => v.IsString
  | type, v => v.IsTypeName ∨ ∃ names, v = .array names ∧ names ≠ [] ∧ ∀ x ∈ names, x.IsTypeName
  | enum, v => ∃ options, v = .array options
  | const, _ | informative, _ => True
  | bound _, v => ∃ n, v = .number n
  | multipleOf, v => ∃ n, v = .number n ∧ 0 < n.units
  | length _, v | itemCount _, v => ∃ n, v = .number n ∧ n.IsCount
  | pattern, v => ∃ source regex, v = .string source ∧ Regex.parse? source = some regex
  | required, v => ∃ names, v = .array names ∧ ∀ x ∈ names, x.IsString
  | properties, v => ∃ schemas, v = .object schemas
  | items, v => v.IsSchema ∨ ∃ schemas, v = .array schemas
  | allOf, v | anyOf, v | oneOf, v => ∃ schemas, v = .array schemas ∧ schemas ≠ []
  | not, v | condition, v | branch _, v => v.IsSchema

namespace Compile

variable {v : Value}

theorem exists_mapM_ok_iff {ε α β : Type} {f : α → Except ε β} {l : List α} :
    (∃ bs, l.mapM f = .ok bs) ↔ ∀ a ∈ l, ∃ b, f a = .ok b := by
  induction l with
  | nil => exact ⟨fun _ => by simp, fun _ => ⟨[], rfl⟩⟩
  | cons a l ih =>
      rw [List.mapM_cons, List.forall_mem_cons, ← ih]
      constructor
      · rintro ⟨_, h⟩
        obtain ⟨b, hb, h⟩ := bind_eq_ok.mp h
        obtain ⟨bs, hbs, -⟩ := bind_eq_ok.mp h
        exact ⟨⟨b, hb⟩, bs, hbs⟩
      · rintro ⟨⟨b, hb⟩, bs, hbs⟩
        exact ⟨b :: bs, by rw [hb, hbs]; rfl⟩

theorem exists_readString_iff : (∃ s, readString v = .ok s) ↔ v.IsString := by
  cases v <;> simp [readString, Value.IsString]

theorem exists_readTypeName_iff : (∃ t, readTypeName v = .ok t) ↔ v.IsTypeName := by
  cases v with
  | string name =>
      cases h : TypeName.ofText? name <;> simp [readTypeName, Value.IsTypeName, h]
  | _ => simp [readTypeName, Value.IsTypeName]

theorem exists_readNames_iff :
    (∃ names, readNames v = .ok names) ↔ Keyword.required.Takes v := by
  cases v with
  | array names =>
      have htakes : Keyword.required.Takes (.array names) ↔ ∀ x ∈ names, x.IsString := by
        simp [Keyword.Takes]
      rw [htakes, readNames, exists_mapM_ok_iff]
      refine forall₂_congr fun x _ => ?_
      cases x <;> simp [Value.IsString]
  | _ => simp [readNames, Keyword.Takes]

theorem exists_readTypes_iff : (∃ ts, readTypes v = .ok ts) ↔ Keyword.type.Takes v := by
  have hlist (names : List Value) : (∃ ts, names.mapM readTypeName = .ok ts) ↔
      ∀ x ∈ names, x.IsTypeName :=
    exists_mapM_ok_iff.trans (forall₂_congr fun _ _ => exists_readTypeName_iff)
  cases v with
  | string name =>
      have hname := exists_readTypeName_iff (v := .string name)
      simpa [readTypes, map_eq_ok, Keyword.Takes] using hname
  | array names =>
      cases names with
      | nil => simp [readTypes, Keyword.Takes, Value.IsTypeName]
      | cons name names =>
          simpa [readTypes, Keyword.Takes, Value.IsTypeName] using hlist (name :: names)
  | _ => simp [readTypes, Keyword.Takes, Value.IsTypeName]

/-- A check is read from exactly the values that its keyword takes. -/
theorem exists_readCheck_iff {settings : Settings} {k : Keyword} (hk : k.isCheck = true) :
    (∃ check, readCheck settings k v = .ok check) ↔ k.Takes v := by
  cases k with
  | type => simpa [readCheck, map_eq_ok] using exists_readTypes_iff
  | enum => cases v <;> simp [readCheck, readOptions, Keyword.Takes, Except.map]
  | const => simp [readCheck, Keyword.Takes]
  | format => simpa [readCheck, map_eq_ok, Keyword.Takes] using exists_readString_iff
  | bound b => cases v <;> simp [readCheck, readNumber, Keyword.Takes, Except.map]
  | multipleOf =>
      cases v with
      | number n =>
          simp only [readCheck, readDivisor, Keyword.Takes, map_eq_ok, Value.number.injEq,
            exists_eq_left', ← Number.isPositive_iff]
          cases n.isPositive <;> simp
      | _ => simp [readCheck, readDivisor, Keyword.Takes, Except.map]
  | length side | itemCount side =>
      cases v with
      | number n =>
          simp only [readCheck, readCount, Keyword.Takes, map_eq_ok, Value.number.injEq,
            exists_eq_left', ← Number.isSome_count?_iff]
          cases n.count? <;> simp
      | _ => simp [readCheck, readCount, Keyword.Takes, Except.map]
  | _ => cases hk

end Compile
end JsonSchema
