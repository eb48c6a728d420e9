import JsonSchema.Proofs.Value.Identity
import JsonSchema.Proofs.Yaml.Convertible
import JsonSchema.Proofs.Yaml.Plain

/-!
# What conversion keeps

The text of a key tells it from all keys but the string of that text. Conversion keeps every item
and every entry in its place exactly where no mapping has such a pair of keys: of a pair only one
member is left.
-/

namespace JsonSchema

/-! ## Setting members -/

namespace Value

variable {v : Value} {members : List (String × Value)} {name : String}

theorem setMember_of_notMem (h : name ∉ members.map Prod.fst) :
    setMember name v members = members ++ [(name, v)] := by
  induction members with
  | nil => rfl
  | cons m members ih =>
      obtain ⟨k, w⟩ := m
      rw [List.map_cons, List.mem_cons, not_or] at h
      rw [setMember, if_neg (Ne.symm h.1), ih h.2, List.cons_append]

theorem names_setMember_of_mem (h : name ∈ members.map Prod.fst) :
    (setMember name v members).map Prod.fst = members.map Prod.fst := by
  induction members with
  | nil => cases h
  | cons m members ih =>
      obtain ⟨k, w⟩ := m
      rw [setMember]
      split
      · rfl
      · next hne =>
          have hmem := (List.mem_cons.mp h).resolve_left (Ne.symm hne)
          rw [List.map_cons, List.map_cons, ih hmem]

theorem mem_setMember {m : String × Value}
    (h : m ∈ setMember name v members) : m ∈ members ∨ m = (name, v) := by
  induction members with
  | nil => exact .inr (List.mem_singleton.mp h)
  | cons m' members ih =>
      obtain ⟨k, w⟩ := m'
      rw [setMember] at h
      split at h
      · next heq =>
          subst heq
          rcases List.mem_cons.mp h with rfl | h
          · exact .inr rfl
          · exact .inl (List.mem_cons_of_mem _ h)
      · rcases List.mem_cons.mp h with rfl | h
        · exact .inl List.mem_cons_self
        · exact (ih h).imp_left (List.mem_cons_of_mem _)

theorem nodup_setMember (h : (members.map Prod.fst).Nodup) :
    ((setMember name v members).map Prod.fst).Nodup := by
  by_cases hmem : name ∈ members.map Prod.fst
  · rwa [names_setMember_of_mem hmem]
  · rw [setMember_of_notMem hmem, List.map_append, List.map_singleton]
    exact List.concat_eq_append ▸ h.concat hmem

end Value

namespace Yaml

/-- A JSON value of the same structure: as many items and as many members, in the same order, each
member under the text of its key. -/
inductive Mirrors : Yaml → Value → Prop
  | null : Mirrors null .null
  | bool (b) : Mirrors (bool b) (.bool b)
  | number (n) : Mirrors (number n) (.number n)
  | string (s) : Mirrors (string s) (.string s)
  | sequence {items vs} (hlength : items.length = vs.length)
      (hitems : ∀ (i : Nat) x v, items[i]? = some x → vs[i]? = some v → Mirrors x v) :
      Mirrors (sequence items) (.array vs)
  | mapping {entries members} (hlength : entries.length = members.length)
      (hkeys : ∀ (i : Nat) e m, entries[i]? = some e → members[i]? = some m →
        keyText e.1 = .ok m.1)
      (hvalues : ∀ (i : Nat) e m, entries[i]? = some e → members[i]? = some m →
        Mirrors e.2 m.2) : Mirrors (mapping entries) (.object members)
  | tagged {tag t v} (h : Mirrors t v) : Mirrors (tagged tag t) v

/-- No mapping in a value has a key twice. -/
def WellFormed (t : Yaml) : Prop :=
  ∀ entries, Holds t (mapping entries) → entries.Pairwise fun e e' => e.1.same e'.1 = false

/-- Some mapping in a value has two keys of one text, of which one is that text. -/
def Clashes (t : Yaml) : Prop := ∃ entries s e e', Holds t (mapping entries) ∧ e ∈ entries ∧
  e' ∈ entries ∧ e.1 = string s ∧ e'.1 ≠ string s ∧ keyText e'.1 = .ok s

variable {t x : Yaml} {v : Value} {entries : List (Yaml × Yaml)}
  {done new members : List (String × Value)}

/-! ## Keys -/

theorem same_self {key : Yaml} (h : key.IsScalar) : key.same key = true := by
  cases key with
  | bool b | nonFinite n | string s => simp [same]
  | number n => exact n.identical_refl
  | null | sequence items | mapping entries | tagged tag content => cases h

/-- Keys of one text are equal, or one of them is that text. -/
theorem eq_of_keyText {key key' : Yaml} {s : String} (h : keyText key = .ok s)
    (h' : keyText key' = .ok s) : key = key' ∨ key = string s ∨ key' = string s := by
  have hstring {k : Yaml} (hk : keyText k = .ok s) {u : String} (hu : k = string u) :
      k = string s := by
    subst hu
    cases hk
    rfl
  by_cases hkey : ∃ u, key = string u
  · obtain ⟨u, hu⟩ := hkey
    exact .inr (.inl (hstring h hu))
  · by_cases hkey' : ∃ u, key' = string u
    · obtain ⟨u, hu⟩ := hkey'
      exact .inr (.inr (hstring h' hu))
    · have hread := ofPlain?_keyText h fun u hu => hkey ⟨u, hu⟩
      have hread' := ofPlain?_keyText h' fun u hu => hkey' ⟨u, hu⟩
      exact .inl (Option.some_inj.mp (hread.symm.trans hread'))

/-! ## Members -/

theorem mem_setMembers {m : String × Value} (h : m ∈ setMembers done new) :
    m ∈ done ∨ m ∈ new := by
  induction new generalizing done with
  | nil => exact .inl h
  | cons m' new ih =>
      rcases ih h with h | h
      · rcases Value.mem_setMember h with h | rfl
        · exact .inl h
        · exact .inr List.mem_cons_self
      · exact .inr (List.mem_cons_of_mem _ h)

/-- Names that are all new are put behind the others. -/
theorem setMembers_of_nodup (h : ((done ++ new).map Prod.fst).Nodup) :
    setMembers done new = done ++ new := by
  induction new generalizing done with
  | nil => rw [List.append_nil]; rfl
  | cons m new ih =>
      have hnot : m.1 ∉ done.map Prod.fst := by
        intro hmem
        rw [List.map_append, List.nodup_append] at h
        exact h.2.2 m.1 hmem m.1 (by simp) rfl
      have hset : setMembers done (m :: new) = setMembers (done ++ [m]) new := by
        rw [setMembers, List.foldl_cons, Value.setMember_of_notMem hnot]
        rfl
      rw [hset, ih (by simpa using h), List.append_assoc, List.singleton_append]

/-- No name is there twice. -/
theorem nodup_setMembers (h : (done.map Prod.fst).Nodup) :
    ((setMembers done new).map Prod.fst).Nodup := by
  induction new generalizing done with
  | nil => exact h
  | cons m new ih => exact ih (Value.nodup_setMember h)

/-- What entries become has different names, unless their keys clash. -/
theorem nodup_of_becomes (hnew : List.Forall₂ Becomes entries new)
    (hkeys : entries.Pairwise fun e e' => e.1.same e'.1 = false)
    (hclash : ∀ e ∈ entries, ∀ e' ∈ entries, ∀ s, e.1 = string s → keyText e'.1 = .ok s →
      e'.1 = string s) : (new.map Prod.fst).Nodup := by
  induction hnew with
  | nil => exact List.nodup_nil
  | @cons e m rest new' hm hnew ih =>
      rw [List.pairwise_cons] at hkeys
      rw [List.map_cons, List.nodup_cons]
      refine ⟨?_, ih hkeys.2 fun e he e' he' =>
        hclash e (List.mem_cons_of_mem _ he) e' (List.mem_cons_of_mem _ he')⟩
      intro hmem
      obtain ⟨m', hm', hname⟩ := List.mem_map.mp hmem
      obtain ⟨e', he', hbecomes⟩ := exists_of_mem_forall₂ hnew.flip hm'
      have htext : keyText e'.1 = .ok m.1 := hname ▸ hbecomes.1
      have heq : e.1 = e'.1 := by
        have hhere : e ∈ e :: rest := List.mem_cons_self
        have hthere : e' ∈ e :: rest := List.mem_cons_of_mem _ he'
        rcases eq_of_keyText hm.1 htext with heq | hstring | hstring
        · exact heq
        · rw [hstring, hclash e hhere e' hthere m.1 hstring htext]
        · rw [hstring, hclash e' hthere e hhere m.1 hstring hm.1]
      have hsame := hkeys.1 e' he'
      rw [← heq, same_self (isScalar_of_keyText hm.1)] at hsame
      cases hsame

/-! ## Structure -/

theorem wellFormed_of_toJson (h : toJson t = .ok v) : v.WellFormed := by
  induction t using induction_parts generalizing v with
  | null | bool b | number n | string s =>
      cases h
      trivial
  | nonFinite n => cases h
  | sequence items ih =>
      obtain ⟨vs, hvs, rfl⟩ := map_eq_ok.mp h
      refine Value.wellFormedItems_iff.mpr fun w hw => ?_
      obtain ⟨x, hx, hxw⟩ := exists_of_mem_forall₂ (itemsToJson_eq_ok_iff.mp hvs).flip hw
      exact ih x hx hxw
  | mapping entries ih =>
      obtain ⟨new, hnew, rfl⟩ := toJson_mapping_eq_ok_iff.mp h
      refine ⟨nodup_setMembers List.nodup_nil, Value.wellFormedMembers_iff.mpr fun m hm => ?_⟩
      have hm := (mem_setMembers hm).resolve_left List.not_mem_nil
      obtain ⟨e, he, hem⟩ := exists_of_mem_forall₂ hnew.flip hm
      exact ih e he hem.2
  | tagged tag content ih => exact ih h

theorem WellFormed.of_holds (h : t.WellFormed) (hx : ∀ w, Holds x w → Holds t w) :
    x.WellFormed := fun entries hentries => h entries (hx _ hentries)

theorem Clashes.of_holds (h : x.Clashes) (hx : ∀ w, Holds x w → Holds t w) : t.Clashes := by
  obtain ⟨entries, s, e, e', hentries, hclash⟩ := h
  exact ⟨entries, s, e, e', hx _ hentries, hclash⟩

theorem mirrors_sequence_iff {items : List Yaml} {vs : List Value} :
    Mirrors (sequence items) (.array vs) ↔ List.Forall₂ Mirrors items vs := by
  rw [forall₂_iff_getElem?]
  constructor
  · intro h
    cases h with
    | sequence hlength hitems => exact ⟨hlength, hitems⟩
  · rintro ⟨hlength, hitems⟩
    exact .sequence hlength hitems

theorem mirrors_mapping_iff : Mirrors (mapping entries) (.object members) ↔
    List.Forall₂ (fun e m => keyText e.1 = .ok m.1 ∧ Mirrors e.2 m.2) entries members := by
  rw [forall₂_iff_getElem?]
  constructor
  · intro h
    cases h with
    | mapping hlength hkeys hvalues =>
        exact ⟨hlength, fun i e m he hm => ⟨hkeys i e m he hm, hvalues i e m he hm⟩⟩
  · rintro ⟨hlength, hentries⟩
    exact .mapping hlength (fun i e m he hm => (hentries i e m he hm).1)
      fun i e m he hm => (hentries i e m he hm).2

/-- Without clashes conversion keeps the structure. -/
theorem mirrors_of_toJson (hkeys : t.WellFormed) (hclash : ¬t.Clashes) (h : toJson t = .ok v) :
    Mirrors t v := by
  induction t using induction_parts generalizing v with
  | null =>
      cases h
      exact .null
  | bool b =>
      cases h
      exact .bool b
  | number n =>
      cases h
      exact .number n
  | string s =>
      cases h
      exact .string s
  | nonFinite n => cases h
  | sequence items ih =>
      obtain ⟨vs, hvs, rfl⟩ := map_eq_ok.mp h
      rw [mirrors_sequence_iff]
      refine forall₂_imp_of_mem (itemsToJson_eq_ok_iff.mp hvs) fun x hx v _ hv => ?_
      exact ih x hx (hkeys.of_holds fun _ => .item hx)
        (fun hclashes => hclash (hclashes.of_holds fun _ => .item hx)) hv
  | mapping entries ih =>
      obtain ⟨new, hnew, rfl⟩ := toJson_mapping_eq_ok_iff.mp h
      have hnodup := nodup_of_becomes hnew (hkeys entries (.self _)) fun e he e' he' s hs hs' => by
        by_contra hne
        exact hclash ⟨entries, s, e, e', .self _, he, he', hs, hne, hs'⟩
      rw [setMembers_of_nodup (by simpa using hnodup), List.nil_append, mirrors_mapping_iff]
      refine forall₂_imp_of_mem hnew fun e he m _ hm => ?_
      exact ⟨hm.1, ih e he (hkeys.of_holds fun _ => .value he)
        (fun hclashes => hclash (hclashes.of_holds fun _ => .value he)) hm.2⟩
  | tagged tag content ih =>
      exact .tagged (ih (hkeys.of_holds fun _ => .content)
        (fun hclashes => hclash (hclashes.of_holds fun _ => .content)) h)

/-- A value of the same structure is what conversion gives. -/
theorem toJson_of_mirrors (h : Mirrors t v) (hv : v.WellFormed) : toJson t = .ok v := by
  induction t using induction_parts generalizing v with
  | null | bool b | number n | string s =>
      cases h
      rfl
  | nonFinite n => cases h
  | sequence items ih =>
      cases h with
      | @sequence _ vs hlength hitems =>
          have hmirrors := mirrors_sequence_iff.mp (.sequence hlength hitems)
          rw [Value.WellFormed, Value.wellFormedItems_iff] at hv
          refine map_eq_ok.mpr ⟨vs, itemsToJson_eq_ok_iff.mpr ?_, rfl⟩
          exact forall₂_imp_of_mem hmirrors fun x hx w hw hxw => ih x hx hxw (hv w hw)
  | mapping entries ih =>
      cases h with
      | @mapping _ members hlength hkeys hvalues =>
          have hmirrors := mirrors_mapping_iff.mp (.mapping hlength hkeys hvalues)
          rw [Value.WellFormed, Value.wellFormedMembers_iff] at hv
          refine toJson_mapping_eq_ok_iff.mpr ⟨members, ?_, ?_⟩
          · exact forall₂_imp_of_mem hmirrors fun e he m hm hem =>
              ⟨hem.1, ih e he hem.2 (hv.2 m hm)⟩
          · rw [setMembers_of_nodup (by simpa using hv.1), List.nil_append]
  | tagged tag content ih =>
      cases h with
      | tagged h => exact ih h hv

/-- What is in a value has the same structure as something. -/
theorem Mirrors.exists_of_holds {w : Yaml} (hw : Holds t w) (h : Mirrors t v)
    (hv : v.WellFormed) : ∃ u, Mirrors w u ∧ u.WellFormed := by
  induction hw generalizing v with
  | self t => exact ⟨v, h, hv⟩
  | item hx _ ih =>
      cases h with
      | sequence hlength hitems =>
          have hmirrors := mirrors_sequence_iff.mp (.sequence hlength hitems)
          rw [Value.WellFormed, Value.wellFormedItems_iff] at hv
          obtain ⟨u, hu, hxu⟩ := exists_of_mem_forall₂ hmirrors hx
          exact ih hxu (hv u hu)
  | value he _ ih =>
      cases h with
      | mapping hlength hkeys hvalues =>
          have hmirrors := mirrors_mapping_iff.mp (.mapping hlength hkeys hvalues)
          rw [Value.WellFormed, Value.wellFormedMembers_iff] at hv
          obtain ⟨m, hm, hem⟩ := exists_of_mem_forall₂ hmirrors he
          exact ih hem.2 (hv.2 m hm)
  | content _ ih =>
      cases h with
      | tagged h => exact ih h hv

/-- Names that are all different have room for no clash. -/
theorem not_clashes_of_mirrors (h : Mirrors t v) (hv : v.WellFormed) : ¬t.Clashes := by
  rintro ⟨entries, s, e, e', hentries, he, he', hs, hne, htext⟩
  obtain ⟨u, hu, hwf⟩ := h.exists_of_holds hentries hv
  cases hu with
  | @mapping _ members hlength hkeys hvalues =>
      have hmirrors := mirrors_mapping_iff.mp (.mapping hlength hkeys hvalues)
      obtain ⟨i, hi⟩ := List.mem_iff_getElem?.mp he
      obtain ⟨j, hj⟩ := List.mem_iff_getElem?.mp he'
      obtain ⟨m, hm, hem⟩ := exists_getElem?_of_forall₂ hmirrors.flip hi
      obtain ⟨m', hm', hem'⟩ := exists_getElem?_of_forall₂ hmirrors.flip hj
      have hname : m.1 = s := by
        have hkey := hem.1
        rw [hs] at hkey
        exact (Except.ok.inj hkey).symm
      have hname' : m'.1 = s := (Except.ok.inj (htext.symm.trans hem'.1)).symm
      have hlt : i < (members.map Prod.fst).length := by
        rw [List.length_map]
        exact (List.getElem?_eq_some_iff.mp hm).1
      have hij : i = j := (List.getElem?_inj hlt hwf.1).mp (by simp [hm, hm', hname, hname'])
      subst hij
      obtain rfl := Option.some_inj.mp (hi.symm.trans hj)
      exact hne hs

/-! ## What comes from JSON -/

mutual

/-- The YAML value of a JSON value. -/
def ofJson : Value → Yaml
  | .null => null
  | .bool b => bool b
  | .number n => number n
  | .string s => string s
  | .array items => sequence (ofItems items)
  | .object members => mapping (ofMembers members)

/-- The YAML values of some JSON values. -/
def ofItems : List Value → List Yaml
  | [] => []
  | v :: vs => ofJson v :: ofItems vs

/-- The entries of some members. -/
def ofMembers : List (String × Value) → List (Yaml × Yaml)
  | [] => []
  | (name, v) :: rest => (string name, ofJson v) :: ofMembers rest

end

theorem mirrors_ofItems {vs : List Value} (h : ∀ v ∈ vs, Mirrors (ofJson v) v) :
    List.Forall₂ Mirrors (ofItems vs) vs := by
  induction vs with
  | nil => exact .nil
  | cons v vs ih =>
      exact .cons (h v List.mem_cons_self) (ih fun w hw => h w (List.mem_cons_of_mem v hw))

theorem mirrors_ofMembers (h : ∀ m ∈ members, Mirrors (ofJson m.2) m.2) :
    List.Forall₂ (fun e m => keyText e.1 = .ok m.1 ∧ Mirrors e.2 m.2) (ofMembers members)
      members := by
  induction members with
  | nil => exact .nil
  | cons m members ih =>
      exact .cons ⟨rfl, h m List.mem_cons_self⟩
        (ih fun m' hm' => h m' (List.mem_cons_of_mem m hm'))

theorem mirrors_ofJson (v : Value) : Mirrors (ofJson v) v := by
  induction v using Value.induction_parts with
  | null => exact .null
  | bool b => exact .bool b
  | number n => exact .number n
  | string s => exact .string s
  | array items ih => exact mirrors_sequence_iff.mpr (mirrors_ofItems ih)
  | object members ih => exact mirrors_mapping_iff.mpr (mirrors_ofMembers ih)

/-! ## Conversion -/

/-- Where no mapping has a key twice, a value of the same structure is what conversion gives without
clashes, and no other: each item and each entry keeps its place, under the text of its key. What
comes from JSON is converted back. -/
theorem mirrors_iff (t : Yaml) (hkeys : t.WellFormed) :
    (∀ v, Mirrors t v ∧ v.WellFormed ↔ toJson t = .ok v ∧ ¬t.Clashes) ∧
      ∀ w : Value, w.WellFormed → toJson (ofJson w) = .ok w := by
  refine ⟨fun v => ⟨?_, ?_⟩, fun w hw => toJson_of_mirrors (mirrors_ofJson w) hw⟩
  · rintro ⟨h, hv⟩
    exact ⟨toJson_of_mirrors h hv, not_clashes_of_mirrors h hv⟩
  · rintro ⟨h, hclash⟩
    exact ⟨mirrors_of_toJson hkeys hclash h, wellFormed_of_toJson h⟩

/-- Settings with keys of three kinds, two of them inside a sequence. -/
def limits : Yaml :=
  mapping [(number (.ofNat 1), string "low"),
    (string "01", sequence [mapping [(bool true, null), (string "yes", null)]])]

/-- The same settings in JSON. -/
def limitsJson : Value :=
  .object [("1", .string "low"), ("01", .array [.object [("true", .null), ("yes", .null)]])]

theorem mirrors_limits : limits.WellFormed ∧ Mirrors limits limitsJson ∧ limitsJson.WellFormed ∧
    toJson limits = .ok limitsJson ∧ ¬limits.Clashes ∧
    toJson (ofJson limitsJson) = .ok limitsJson := by
  have hkeys : limits.WellFormed := by
    intro entries h
    cases h with
    | self _ => simp [same]
    | value he h =>
        rcases List.mem_pair.mp he with rfl | rfl
        · cases h
        · cases h with
          | item hx h =>
              obtain rfl := List.mem_singleton.mp hx
              cases h with
              | self _ => simp [same]
              | value he h => rcases List.mem_pair.mp he with rfl | rfl <;> cases h
  have hmirrors : Mirrors limits limitsJson := by
    refine mirrors_mapping_iff.mpr (.cons ⟨rfl, .string _⟩ (.cons ⟨rfl, ?_⟩ .nil))
    refine mirrors_sequence_iff.mpr (.cons ?_ .nil)
    exact mirrors_mapping_iff.mpr (.cons ⟨rfl, .null⟩ (.cons ⟨rfl, .null⟩ .nil))
  have hwf : limitsJson.WellFormed := by decide
  obtain ⟨hiff, hback⟩ := mirrors_iff limits hkeys
  obtain ⟨htoJson, hclash⟩ := (hiff limitsJson).mp ⟨hmirrors, hwf⟩
  exact ⟨hkeys, hmirrors, hwf, htoJson, hclash, hback limitsJson hwf⟩

/-- Of a number and the string of its text only the later entry is left. -/
theorem exists_lost_entry : ∃ t v, t.WellFormed ∧ toJson t = .ok v ∧ ¬Mirrors t v := by
  refine ⟨mapping [(number (.ofNat 1), string "a"), (string "1", string "b")],
    .object [("1", .string "b")], ?_, rfl, ?_⟩
  · intro entries h
    cases h with
    | self _ => simp [same]
    | value he h =>
        rcases List.mem_pair.mp he with rfl | rfl <;> cases h
  · intro h
    cases h with
    | mapping hlength _ _ => cases hlength

end Yaml
end JsonSchema
