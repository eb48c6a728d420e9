import JsonSchema.Proofs.Registry.Anchors
import JsonSchema.Proofs.Registry.Lone
import JsonSchema.Proofs.Value.Extended

/-!
# Declarations in one member more

The walk for declarations also goes into a member that is no keyword. What it finds there comes
between what it found before, and nothing else changes. So a reference leads where it did before,
unless what it asks for is declared first in the new member.
-/

namespace JsonSchema

open Declarations

namespace Declarations

variable {base : Url} {place : Place} {p : Pointer} {v v' : Value} {path : List String}
variable {entry : String × Value} {declared declared' a b : Declarations}

theorem append_assoc (a b c : Declarations) : a ++ b ++ c = a ++ (b ++ c) :=
  congrArg₂ Declarations.mk (List.append_assoc ..) (List.append_assoc ..)

/-! ## Declarations at a pointer or below -/

/-- All that is declared is at a pointer or below. -/
structure Below (p : Pointer) (declared : Declarations) : Prop where
  resources : ∀ e ∈ declared.resources, ∃ rest, e.2.pointer = p ++ rest
  anchors : ∀ e ∈ declared.anchors, ∃ rest, e.2.pointer = p ++ rest

theorem below_empty (p : Pointer) : Below p {} := by
  constructor <;> simp

theorem Below.append (ha : Below p a) (hb : Below p b) : Below p (a ++ b) :=
  ⟨fun e he => (List.mem_append.mp he).elim (ha.resources e) (hb.resources e),
    fun e he => (List.mem_append.mp he).elim (ha.anchors e) (hb.anchors e)⟩

theorem below_of_ofValue (h : ofValue base place v = .ok declared) :
    Below place.pointer declared := by
  refine of_scanned (P := Below place.pointer) (below_empty _) (fun _ _ => Below.append) base place
    v declared h ?_
  intro b p members inner own hscanned hown
  obtain ⟨path, rfl, -⟩ := hscanned.exists_path
  obtain ⟨hresources, hanchors⟩ := (selfDeclared_of_ofObject hown).eq_place
  exact ⟨fun e he => ⟨⟨path⟩, by rw [hresources e he]⟩, fun e he => ⟨⟨path⟩, by rw [hanchors e he]⟩⟩

/-! ## Declarations in between -/

/-- Declarations are the same but for some in between, which are at a pointer or below. -/
def Inserted (p : Pointer) (declared declared' : Declarations) : Prop :=
  ∃ a extra b, declared = a ++ b ∧ declared' = a ++ (extra ++ b) ∧ Below p extra

theorem Inserted.refl (p : Pointer) (declared : Declarations) : Inserted p declared declared :=
  ⟨{}, {}, declared, rfl, rfl, below_empty p⟩

theorem Inserted.append_left (h : Inserted p declared declared') (c : Declarations) :
    Inserted p (c ++ declared) (c ++ declared') := by
  obtain ⟨a, extra, b, rfl, rfl, hextra⟩ := h
  exact ⟨c ++ a, extra, b, (append_assoc ..).symm, (append_assoc ..).symm, hextra⟩

theorem Inserted.append_right (h : Inserted p declared declared') (c : Declarations) :
    Inserted p (declared ++ c) (declared' ++ c) := by
  obtain ⟨a, extra, b, rfl, rfl, hextra⟩ := h
  exact ⟨a, extra, b ++ c, append_assoc .., by rw [append_assoc, append_assoc], hextra⟩

/-- What is looked up stays the same unless it is now found in between. -/
theorem lookup_inserted {κ : Type} [BEq κ] [LawfulBEq κ] (before extra after : List (κ × Place))
    {key : κ} (h : (before ++ after).lookup key = some place)
    (hextra : ∀ place', (before ++ (extra ++ after)).lookup key = some place' →
      (key, place') ∉ extra) :
    (before ++ (extra ++ after)).lookup key = some place := by
  rw [List.lookup_append] at h hextra ⊢
  cases hbefore : before.lookup key with
  | some found =>
      rw [hbefore] at h
      exact h
  | none =>
      rw [hbefore, Option.none_or] at h hextra
      rw [Option.none_or, List.lookup_append]
      cases hfound : extra.lookup key with
      | none => exact h
      | some found =>
          refine absurd (mem_of_lookup hfound) (hextra found ?_)
          rw [List.lookup_append, hfound, Option.some_or]

/-! ## The walk -/

theorem exists_of_ofMembers_append {before after : List (String × Value)}
    (h : ofMembers base place (before ++ after) = .ok declared) :
    ∃ a b, ofMembers base place before = .ok a ∧ ofMembers base place after = .ok b ∧
      declared = a ++ b := by
  induction before generalizing declared with
  | nil => exact ⟨{}, declared, rfl, h, rfl⟩
  | cons m before ih =>
      obtain ⟨key, x⟩ := m
      obtain ⟨first, others, hfirst, hothers, rfl⟩ := ofMembers_cons_iff.mp h
      obtain ⟨a, b, ha, hb, rfl⟩ := ih hothers
      exact ⟨first ++ a, b, ofMembers_cons_iff.mpr ⟨first, a, hfirst, ha, rfl⟩, hb,
        (append_assoc ..).symm⟩

theorem exists_of_ofItems_append {before after : List Value} {i : Nat}
    (h : ofItems base place i (before ++ after) = .ok declared) :
    ∃ a b, ofItems base place i before = .ok a ∧
      ofItems base place (i + before.length) after = .ok b ∧ declared = a ++ b := by
  induction before generalizing i declared with
  | nil => exact ⟨{}, declared, rfl, h, rfl⟩
  | cons x before ih =>
      obtain ⟨first, others, hfirst, hothers, rfl⟩ := ofItems_cons_iff.mp h
      obtain ⟨a, b, ha, hb, rfl⟩ := ih hothers
      refine ⟨first ++ a, b, ofItems_cons_iff.mpr ⟨first, a, hfirst, ha, rfl⟩, ?_,
        (append_assoc ..).symm⟩
      rw [List.length_cons, Nat.add_comm before.length 1, ← Nat.add_assoc]
      exact hb

/-- The declarations of a value with one member more are the same, and in between what is declared
in that member. -/
theorem inserted_of_extended (h : v.Extended entry path v') (hv : v.WellFormed)
    (hid : "$id" ≠ entry.1) (hanchor : "$anchor" ≠ entry.1)
    (hdeclared : ofValue base place v = .ok declared)
    (hdeclared' : ofValue base place v' = .ok declared') :
    Inserted ((place.pointer ++ ⟨path⟩).key entry.1) declared declared' := by
  have hobject {base : Url} {place : Place} {members members' : List (String × Value)}
      {path : List String} (h : (Value.object members).Extended entry path (.object members'))
      (hwf : (Value.object members).WellFormed) :
      ofObject base place members = ofObject base place members' :=
    ofObject_congr (h.get?_string_iff hwf hid) (h.get?_string_iff hwf hanchor)
  induction h generalizing base place declared declared' with
  | @here before after habsent =>
      obtain ⟨inner, own, below, hown, hbelow, rfl⟩ := exists_of_ofValue_object hdeclared
      obtain ⟨inner', own', below', hown', hbelow', rfl⟩ := exists_of_ofValue_object hdeclared'
      rw [hobject (.here before habsent) hv, hown'] at hown
      cases hown
      obtain ⟨a, b, ha, hb, rfl⟩ := exists_of_ofMembers_append hbelow
      obtain ⟨a', b', ha', hb', rfl⟩ := exists_of_ofMembers_append hbelow'
      obtain ⟨first, others, hfirst, hothers, rfl⟩ := ofMembers_cons_iff.mp hb'
      obtain rfl : a = a' := Except.ok.inj (ha.symm.trans ha')
      obtain rfl : b = others := Except.ok.inj (hb.symm.trans hothers)
      refine Inserted.append_left ⟨a, first, b, rfl, rfl, ?_⟩ own
      split at hfirst
      · cases hfirst
        exact below_empty _
      · simpa [Pointer.append_eq] using below_of_ofValue hfirst
  | @member before name after path x x' h ih =>
      obtain ⟨inner, own, below, hown, hbelow, rfl⟩ := exists_of_ofValue_object hdeclared
      obtain ⟨inner', own', below', hown', hbelow', rfl⟩ := exists_of_ofValue_object hdeclared'
      rw [hobject (.member before h) hv, hown'] at hown
      cases hown
      obtain ⟨a, b, ha, hb, rfl⟩ := exists_of_ofMembers_append hbelow
      obtain ⟨a', b', ha', hb', rfl⟩ := exists_of_ofMembers_append hbelow'
      obtain ⟨first, others, hfirst, hothers, rfl⟩ := ofMembers_cons_iff.mp hb
      obtain ⟨first', others', hfirst', hothers', rfl⟩ := ofMembers_cons_iff.mp hb'
      obtain rfl : a = a' := Except.ok.inj (ha.symm.trans ha')
      obtain rfl : others = others' := Except.ok.inj (hothers.symm.trans hothers')
      refine Inserted.append_left (Inserted.append_left (Inserted.append_right ?_ others) a) own
      split at hfirst <;> rename_i hdata
      · rw [if_pos hdata] at hfirst'
        cases hfirst
        cases hfirst'
        exact .refl _ _
      · rw [if_neg hdata] at hfirst'
        have hx := hv.of_mem (List.mem_append_right before List.mem_cons_self)
        simpa [Pointer.append_eq, Pointer.key] using ih hx hfirst hfirst'
  | @item before after path x x' h ih =>
      have hx := Value.wellFormedItems_iff.mp hv x
        (List.mem_append_right before List.mem_cons_self)
      rw [ofValue] at hdeclared hdeclared'
      obtain ⟨a, b, ha, hb, rfl⟩ := exists_of_ofItems_append hdeclared
      obtain ⟨a', b', ha', hb', rfl⟩ := exists_of_ofItems_append hdeclared'
      obtain ⟨first, others, hfirst, hothers, rfl⟩ := ofItems_cons_iff.mp hb
      obtain ⟨first', others', hfirst', hothers', rfl⟩ := ofItems_cons_iff.mp hb'
      obtain rfl : a = a' := Except.ok.inj (ha.symm.trans ha')
      obtain rfl : others = others' := Except.ok.inj (hothers.symm.trans hothers')
      refine Inserted.append_left (Inserted.append_right ?_ others) a
      simpa [Pointer.append_eq, Pointer.index, Pointer.key] using ih hx hfirst hfirst'

end Declarations

namespace Document

variable {d d' : Document} {base b url : Url} {v v' w : Value} {path p : List String}
variable {entry : String × Value}

/-! ## Positions and references -/

/-- A path leads to the same base. -/
theorem Along.of_extended (h : Along base v p b w) (hv : v.WellFormed) (hid : "$id" ≠ entry.1)
    (hextended : v.Extended entry path v') : ∃ w', Along base v' p b w' := by
  induction p generalizing base v v' path with
  | nil =>
      obtain rfl : base = b := Except.ok.inj (h.base (.unretrievable base))
      exact ⟨v', .refl base v'⟩
  | cons token p ih =>
      obtain ⟨inner, child, hinside, hchild, hrest⟩ := h.exists_step
      have hinside' := (baseInside_congr (hextended.get?_string_iff hv hid) base).symm.trans hinside
      obtain ⟨child', hchild', hfrom⟩ := hextended.exists_child? hv hchild
      rcases hfrom with rfl | ⟨rest, -, hbelow⟩
      · exact ⟨w, .cons hinside' hchild' hrest⟩
      · obtain ⟨w', hw'⟩ := ih hrest (hv.of_child? hchild) hbelow
        exact ⟨w', .cons hinside' hchild' hw'⟩

/-- What decides where a URL leads is not declared first at a pointer or below: the anchor that it
names, or else the resource. -/
structure DeclaresOutside (d : Document) (p : Pointer) (url : Url) : Prop where
  resource : ∀ place, isPointerFragment (url.fragment.getD "") = true →
    d.resources.lookup url.withoutFragment = some place → ¬∃ rest, place.pointer = p ++ rest
  anchor : ∀ name place, url.fragment = some name → isPointerFragment name = false →
    d.declared.anchors.lookup (url.withoutFragment, name) = some place →
      ¬∃ rest, place.pointer = p ++ rest

/-- A document with one member more declares alike what it does not declare first in that member. -/
theorem declaresAlike_of_extended (hd : d.WellRead) (hd' : d'.WellRead) (huri : d'.uri = d.uri)
    (hbase : d'.base = d.base) (hextended : d.contents.Extended entry path d'.contents)
    (hid : "$id" ≠ entry.1) (hanchor : "$anchor" ≠ entry.1) {reference : String}
    (houtside : ∀ url, base.join reference = .ok url →
      d'.DeclaresOutside (Pointer.key ⟨path⟩ entry.1) url) :
    Registry.DeclaresAlike d d' base reference := by
  have hread' := hd'.declared
  rw [huri, hbase] at hread'
  have hinserted := inserted_of_extended hextended hd.contents hid hanchor hd.declared hread'
  have hpointer : (Pointer.root ++ ⟨path⟩ : Pointer) = ⟨path⟩ := Pointer.root_append _
  rw [hpointer] at hinserted
  obtain ⟨a, extra, b, hdeclared, hdeclared', hextra⟩ := hinserted
  have hresources : d.resources = (d.uri, ⟨d.uri, .root⟩) :: a.resources ++ b.resources := by
    rw [resources, hdeclared]
    rfl
  have hresources' : d'.resources =
      (d.uri, ⟨d.uri, .root⟩) :: a.resources ++ (extra.resources ++ b.resources) := by
    rw [resources, hdeclared', huri]
    rfl
  constructor
  · intro url place _ hlookup
    have hmem := mem_of_lookup hlookup
    rw [hresources, List.mem_append] at hmem
    refine exists_lookup (List.mem_map_of_mem (f := Prod.fst) (a := (_, place)) ?_)
    rw [hresources', List.mem_append, List.mem_append]
    exact hmem.imp_right .inr
  · intro url place hjoin hpointer hlookup
    have houtside := (houtside url hjoin).resource
    rw [hresources'] at houtside ⊢
    rw [hresources] at hlookup
    refine lookup_inserted _ _ _ hlookup ?_
    intro place' hlookup' hmem
    exact houtside place' hpointer hlookup' (hextra.resources _ hmem)
  · intro url name place hjoin hname hpointer hlookup
    have houtside := (houtside url hjoin).anchor name
    rw [hdeclared'] at houtside ⊢
    rw [hdeclared] at hlookup
    refine lookup_inserted a.anchors _ _ hlookup ?_
    intro place' hlookup' hmem
    exact houtside place' hname hpointer hlookup' (hextra.anchors _ hmem)

end Document
end JsonSchema
