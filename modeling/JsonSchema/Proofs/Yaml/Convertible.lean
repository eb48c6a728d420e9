import JsonSchema.Proofs.Outcome
import JsonSchema.Yaml.Json

/-!
# What converts to JSON

A YAML value converts exactly if no value in it is a number that is not finite and every key of a
mapping in it is a string, a number or a boolean without a tag. A refusal names a value or a key
that stands in the way. Tags on values make no difference; a tag on a key is never let pass.
-/

namespace JsonSchema.Yaml

/-! ## The parts of a value -/

/-- Induction on the items of sequences, the values of mappings and what tags are on. -/
@[elab_as_elim]
theorem induction_parts {P : Yaml → Prop} (null : P .null) (bool : ∀ b, P (.bool b))
    (number : ∀ n, P (.number n)) (nonFinite : ∀ x, P (.nonFinite x)) (string : ∀ s, P (.string s))
    (sequence : ∀ items, (∀ x ∈ items, P x) → P (.sequence items))
    (mapping : ∀ entries, (∀ e ∈ entries, P e.2) → P (.mapping entries))
    (tagged : ∀ tag content, P content → P (.tagged tag content)) : ∀ t, P t
  | .null => null
  | .bool b => bool b
  | .number n => number n
  | .nonFinite x => nonFinite x
  | .string s => string s
  | .sequence items => sequence items fun x _ =>
    induction_parts null bool number nonFinite string sequence mapping tagged x
  | .mapping entries => mapping entries fun e he =>
    have : sizeOf e.2 < sizeOf entries := by
      have hlt := List.sizeOf_lt_of_mem he
      cases e
      simp only [Prod.mk.sizeOf_spec] at hlt ⊢
      omega
    induction_parts null bool number nonFinite string sequence mapping tagged e.2
  | .tagged tag content => tagged tag content
    (induction_parts null bool number nonFinite string sequence mapping tagged content)

/-- A value in another one: itself, an item of a sequence, a value of a mapping, or one of those
behind a tag. -/
inductive Holds : Yaml → Yaml → Prop
  | self (t) : Holds t t
  | item {items x w} (hx : x ∈ items) (h : Holds x w) : Holds (sequence items) w
  | value {entries e w} (he : e ∈ entries) (h : Holds e.2 w) : Holds (mapping entries) w
  | content {tag t w} (h : Holds t w) : Holds (tagged tag t) w

/-- A key of a mapping in a value. -/
def HasKey (t key : Yaml) : Prop := ∃ entries e, Holds t (mapping entries) ∧ e ∈ entries ∧ e.1 = key

/-- A value without the tags on it. -/
def untagged : Yaml → Yaml
  | tagged _ content => untagged content
  | t => t

/-- A string, a number or a boolean. -/
def IsScalar : Yaml → Prop
  | string _ | number _ | nonFinite _ | bool _ => True
  | _ => False

/-- A value with a tag on it. -/
def IsTagged : Yaml → Prop
  | tagged _ _ => True
  | _ => False

/-- What JSON can express: no value that is not finite, and keys that are strings, numbers or
booleans under their tags. -/
structure Convertible (t : Yaml) : Prop where
  finite : ∀ x, ¬Holds t (nonFinite x)
  keys : ∀ key, HasKey t key → key.untagged.IsScalar

/-- What an error says of a value: a number in it is not finite, or a key is no untagged scalar. -/
inductive Obstacle (t : Yaml) : YamlError → Prop
  | notFinite {x} (h : Holds t (nonFinite x)) : Obstacle t (.notFinite x)
  | key {key} (h : HasKey t key) (hkey : ¬key.IsScalar) : Obstacle t (.unsupportedKey key)

/-! ## Conversion part by part -/

variable {t t' : Yaml} {e : YamlError} {v : Value}

theorem keyText_cases (key : Yaml) :
    (key.IsScalar ∧ ∃ s, keyText key = .ok s) ∨
      (¬key.IsScalar ∧ keyText key = .error (.unsupportedKey key)) := by
  cases key <;> simp [IsScalar, keyText]

theorem isScalar_of_keyText {key : Yaml} {s : String} (h : keyText key = .ok s) :
    key.IsScalar := by
  rcases keyText_cases key with ⟨hscalar, -⟩ | ⟨-, herror⟩
  · exact hscalar
  · rw [herror] at h
    cases h

theorem itemsToJson_eq_ok_iff {items : List Yaml} {vs : List Value} :
    itemsToJson items = .ok vs ↔ List.Forall₂ (fun x v => toJson x = .ok v) items vs := by
  induction items generalizing vs with
  | nil => simp [itemsToJson, eq_comm]
  | cons x xs ih =>
      rw [itemsToJson, bind_eq_ok, List.forall₂_cons_left_iff]
      constructor
      · rintro ⟨v, hv, h⟩
        obtain ⟨rest, hrest, h⟩ := bind_eq_ok.mp h
        cases h
        exact ⟨v, rest, hv, ih.mp hrest, rfl⟩
      · rintro ⟨v, rest, hv, hrest, rfl⟩
        exact ⟨v, hv, bind_eq_ok.mpr ⟨rest, ih.mpr hrest, rfl⟩⟩

theorem exists_of_itemsToJson_error {items : List Yaml} (h : itemsToJson items = .error e) :
    ∃ x ∈ items, toJson x = .error e := by
  induction items with
  | nil => cases h
  | cons x xs ih =>
      rw [itemsToJson, bind_eq_error] at h
      rcases h with h | ⟨v, -, h⟩
      · exact ⟨x, List.mem_cons_self, h⟩
      · rcases bind_eq_error.mp h with h | ⟨rest, -, h⟩
        · obtain ⟨y, hy, hyerror⟩ := ih h
          exact ⟨y, List.mem_cons_of_mem x hy, hyerror⟩
        · cases h

/-- An entry becomes a member under the text of its key. -/
def Becomes (e : Yaml × Yaml) (m : String × Value) : Prop :=
  keyText e.1 = .ok m.1 ∧ toJson e.2 = .ok m.2

/-- The members that new ones make together with those that are there. -/
def setMembers (done new : List (String × Value)) : List (String × Value) :=
  new.foldl (fun members m => Value.setMember m.1 m.2 members) done

theorem entriesToJson_eq_ok_iff {entries : List (Yaml × Yaml)}
    {done members : List (String × Value)} :
    entriesToJson done entries = .ok members ↔
      ∃ new, List.Forall₂ Becomes entries new ∧ members = setMembers done new := by
  induction entries generalizing done with
  | nil => simp [entriesToJson, setMembers, eq_comm]
  | cons entry rest ih =>
      obtain ⟨key, x⟩ := entry
      rw [entriesToJson, bind_eq_ok]
      constructor
      · rintro ⟨k, hk, h⟩
        obtain ⟨v, hv, h⟩ := bind_eq_ok.mp h
        obtain ⟨new, hnew, hmembers⟩ := ih.mp h
        exact ⟨(k, v) :: new, .cons ⟨hk, hv⟩ hnew, hmembers⟩
      · rintro ⟨new, hnew, hmembers⟩
        cases hnew with
        | @cons _ m _ new hm hnew =>
            exact ⟨m.1, hm.1, bind_eq_ok.mpr ⟨m.2, hm.2, ih.mpr ⟨new, hnew, hmembers⟩⟩⟩

theorem exists_of_entriesToJson_error {entries : List (Yaml × Yaml)}
    {done : List (String × Value)} (h : entriesToJson done entries = .error e) :
    ∃ entry ∈ entries, keyText entry.1 = .error e ∨ toJson entry.2 = .error e := by
  induction entries generalizing done with
  | nil => cases h
  | cons entry rest ih =>
      obtain ⟨key, x⟩ := entry
      rw [entriesToJson, bind_eq_error] at h
      rcases h with h | ⟨k, -, h⟩
      · exact ⟨(key, x), List.mem_cons_self, .inl h⟩
      · rcases bind_eq_error.mp h with h | ⟨v, -, h⟩
        · exact ⟨(key, x), List.mem_cons_self, .inr h⟩
        · obtain ⟨entry, hentry, herror⟩ := ih h
          exact ⟨entry, List.mem_cons_of_mem _ hentry, herror⟩

theorem toJson_mapping_eq_ok_iff {entries : List (Yaml × Yaml)} :
    toJson (mapping entries) = .ok v ↔
      ∃ new, List.Forall₂ Becomes entries new ∧ v = .object (setMembers [] new) := by
  rw [toJson, map_eq_ok]
  constructor
  · rintro ⟨members, h, rfl⟩
    obtain ⟨new, hnew, rfl⟩ := entriesToJson_eq_ok_iff.mp h
    exact ⟨new, hnew, rfl⟩
  · rintro ⟨new, hnew, rfl⟩
    exact ⟨_, entriesToJson_eq_ok_iff.mpr ⟨new, hnew, rfl⟩, rfl⟩

/-! ## Refusals -/

theorem HasKey.of_holds {w key : Yaml} (h : HasKey w key) (hw : ∀ u, Holds w u → Holds t u) :
    HasKey t key := by
  obtain ⟨entries, entry, hentries, hentry⟩ := h
  exact ⟨entries, entry, hw _ hentries, hentry⟩

theorem Obstacle.of_holds {w : Yaml} (h : Obstacle w e) (hw : ∀ u, Holds w u → Holds t u) :
    Obstacle t e := by
  cases h with
  | notFinite hx => exact .notFinite (hw _ hx)
  | key hkey hscalar => exact .key (hkey.of_holds hw) hscalar

/-- What an error names is in the value. -/
theorem obstacle_of_toJson_error (h : toJson t = .error e) : Obstacle t e := by
  induction t using induction_parts with
  | null | bool b | number n | string s => cases h
  | nonFinite x =>
      cases h
      exact .notFinite (.self _)
  | sequence items ih =>
      obtain ⟨x, hx, hxerror⟩ := exists_of_itemsToJson_error (map_eq_error.mp h)
      exact (ih x hx hxerror).of_holds fun _ => .item hx
  | mapping entries ih =>
      obtain ⟨entry, hentry, hkey | hvalue⟩ := exists_of_entriesToJson_error (map_eq_error.mp h)
      · rcases keyText_cases entry.1 with ⟨-, s, hs⟩ | ⟨hscalar, herror⟩
        · rw [hs] at hkey
          cases hkey
        · rw [herror] at hkey
          cases hkey
          exact .key ⟨entries, entry, .self _, hentry, rfl⟩ hscalar
      · exact (ih entry hentry hvalue).of_holds fun _ => .value hentry
  | tagged tag content ih => exact (ih h).of_holds fun _ => .content

/-- All values in one that converts do so too. -/
theorem Holds.exists_toJson {w : Yaml} (hw : Holds t w) (h : toJson t = .ok v) :
    ∃ u, toJson w = .ok u := by
  induction hw generalizing v with
  | self t => exact ⟨v, h⟩
  | item hx _ ih =>
      obtain ⟨vs, hvs, -⟩ := map_eq_ok.mp h
      obtain ⟨u, -, hu⟩ := exists_of_mem_forall₂ (itemsToJson_eq_ok_iff.mp hvs) hx
      exact ih hu
  | value he _ ih =>
      obtain ⟨new, hnew, -⟩ := toJson_mapping_eq_ok_iff.mp h
      obtain ⟨m, -, hm⟩ := exists_of_mem_forall₂ hnew he
      exact ih hm.2
  | content _ ih => exact ih h

theorem not_obstacle_of_toJson (h : toJson t = .ok v) : ¬Obstacle t e := by
  intro hobstacle
  cases hobstacle with
  | notFinite hx =>
      obtain ⟨u, hu⟩ := hx.exists_toJson h
      cases hu
  | key hkey hscalar =>
      obtain ⟨entries, entry, hentries, hentry, rfl⟩ := hkey
      obtain ⟨u, hu⟩ := hentries.exists_toJson h
      obtain ⟨new, hnew, -⟩ := toJson_mapping_eq_ok_iff.mp hu
      obtain ⟨m, -, hm⟩ := exists_of_mem_forall₂ hnew hentry
      exact hscalar (isScalar_of_keyText hm.1)

/-! ## Tags -/

/-- The second value is the first one with a tag on a value in it. -/
inductive TagsValue : Yaml → Yaml → Prop
  | self (tag t) : TagsValue t (tagged tag t)
  | item (before after) {x x'} (h : TagsValue x x') :
      TagsValue (sequence (before ++ x :: after)) (sequence (before ++ x' :: after))
  | value (before after key) {x x'} (h : TagsValue x x') :
      TagsValue (mapping (before ++ (key, x) :: after)) (mapping (before ++ (key, x') :: after))
  | content (tag) {t t'} (h : TagsValue t t') : TagsValue (tagged tag t) (tagged tag t')

/-- The second value is the first one with a tag on a scalar key in it. -/
inductive TagsKey : Yaml → Yaml → Prop
  | key (before after tag key x) (hkey : key.untagged.IsScalar) :
      TagsKey (mapping (before ++ (key, x) :: after))
        (mapping (before ++ (tagged tag key, x) :: after))
  | item (before after) {x x'} (h : TagsKey x x') :
      TagsKey (sequence (before ++ x :: after)) (sequence (before ++ x' :: after))
  | value (before after key) {x x'} (h : TagsKey x x') :
      TagsKey (mapping (before ++ (key, x) :: after)) (mapping (before ++ (key, x') :: after))
  | content (tag) {t t'} (h : TagsKey t t') : TagsKey (tagged tag t) (tagged tag t')

theorem isScalar_iff {key : Yaml} : key.IsScalar ↔ key.untagged.IsScalar ∧ ¬key.IsTagged := by
  cases key <;> simp [IsScalar, untagged, IsTagged]

theorem itemsToJson_congr (before after : List Yaml) {x x' : Yaml} (h : toJson x' = toJson x) :
    itemsToJson (before ++ x' :: after) = itemsToJson (before ++ x :: after) := by
  induction before with
  | nil =>
      rw [List.nil_append, List.nil_append, itemsToJson, itemsToJson, h]
  | cons y before ih =>
      rw [List.cons_append, List.cons_append, itemsToJson, itemsToJson, ih]

theorem entriesToJson_congr (before after : List (Yaml × Yaml)) (key : Yaml) {x x' : Yaml}
    (h : toJson x' = toJson x) (done : List (String × Value)) :
    entriesToJson done (before ++ (key, x') :: after) =
      entriesToJson done (before ++ (key, x) :: after) := by
  induction before generalizing done with
  | nil =>
      rw [List.nil_append, List.nil_append, entriesToJson, entriesToJson, h]
  | cons entry before ih =>
      obtain ⟨k, y⟩ := entry
      rw [List.cons_append, List.cons_append, entriesToJson, entriesToJson]
      simp only [ih]

theorem TagsValue.toJson_eq (h : TagsValue t t') : toJson t' = toJson t := by
  induction h with
  | self tag t => rfl
  | item before after _ ih => rw [toJson, toJson, itemsToJson_congr before after ih]
  | value before after key _ ih => rw [toJson, toJson, entriesToJson_congr before after key ih]
  | content tag _ ih => exact ih

theorem TagsKey.exists_key (h : TagsKey t t') : ∃ key, HasKey t' key ∧ key.IsTagged := by
  induction h with
  | key before after tag key x hkey =>
      exact ⟨tagged tag key, ⟨_, (tagged tag key, x), .self _, by simp, rfl⟩, trivial⟩
  | item before after _ ih =>
      obtain ⟨key, hkey, htagged⟩ := ih
      exact ⟨key, hkey.of_holds fun _ => .item (by simp), htagged⟩
  | value before after k _ ih =>
      obtain ⟨key, hkey, htagged⟩ := ih
      exact ⟨key, hkey.of_holds fun _ => .value (e := (k, _)) (by simp), htagged⟩
  | content tag _ ih =>
      obtain ⟨key, hkey, htagged⟩ := ih
      exact ⟨key, hkey.of_holds fun _ => .content, htagged⟩

/-- A value converts exactly if JSON can express it and no key in it has a tag, and a refusal names
what stands in the way. A tag on any value in it changes nothing; with one on a scalar key it does
not convert. -/
theorem converts_iff (t : Yaml) :
    ((∃ v, toJson t = .ok v) ↔ Convertible t ∧ ∀ key, HasKey t key → ¬key.IsTagged) ∧
      (∀ e, toJson t = .error e → Obstacle t e) ∧
      (∀ t', TagsValue t t' → toJson t' = toJson t) ∧
      ∀ t', TagsKey t t' → ∀ v, toJson t' ≠ .ok v := by
  refine ⟨⟨?_, ?_⟩, fun e => obstacle_of_toJson_error, fun t' => TagsValue.toJson_eq, ?_⟩
  · rintro ⟨v, hv⟩
    have hkeys : ∀ key, HasKey t key → key.IsScalar := by
      intro key hkey
      by_contra hscalar
      exact not_obstacle_of_toJson hv (.key hkey hscalar)
    refine ⟨⟨?_, ?_⟩, ?_⟩
    · intro x hx
      exact not_obstacle_of_toJson hv (.notFinite hx)
    · intro key hkey
      exact (isScalar_iff.mp (hkeys key hkey)).1
    · intro key hkey
      exact (isScalar_iff.mp (hkeys key hkey)).2
  · rintro ⟨⟨hfinite, hkeys⟩, huntagged⟩
    cases h : toJson t with
    | ok v => exact ⟨v, rfl⟩
    | error e =>
        cases obstacle_of_toJson_error h with
        | notFinite hx => exact absurd hx (hfinite _)
        | key hkey hscalar =>
            exact absurd (isScalar_iff.mpr ⟨hkeys _ hkey, huntagged _ hkey⟩) hscalar
  · intro t' ht' v hv
    obtain ⟨key, hkey, htagged⟩ := ht'.exists_key
    refine not_obstacle_of_toJson hv (.key hkey ?_)
    intro hscalar
    exact (isScalar_iff.mp hscalar).2 htagged

/-- Settings with a tagged value inside, and with keys of three kinds. -/
def settings : Yaml :=
  mapping [(string "ports", sequence [tagged "!port" (number (.ofNat 80))]),
    (bool true, null), (nonFinite .nan, mapping [])]

/-- The settings with a tag on the last key. -/
def settingsTagged : Yaml :=
  mapping [(string "ports", sequence [tagged "!port" (number (.ofNat 80))]),
    (bool true, null), (tagged "!limit" (nonFinite .nan), mapping [])]

theorem converts_settings : (∃ v, toJson settings = .ok v) ∧ Convertible settings ∧
    TagsValue settings (tagged "!all" settings) ∧
    toJson (tagged "!all" settings) = toJson settings ∧
    TagsKey settings settingsTagged ∧ (∀ v, toJson settingsTagged ≠ .ok v) ∧
    Obstacle settingsTagged (.unsupportedKey (tagged "!limit" (nonFinite .nan))) := by
  have hok : ∃ v, toJson settings = .ok v := ⟨_, rfl⟩
  have hvalue : TagsValue settings (tagged "!all" settings) := .self _ _
  have hkey : TagsKey settings settingsTagged :=
    .key [(string "ports", sequence [tagged "!port" (number (.ofNat 80))]), (bool true, null)]
      [] "!limit" (nonFinite .nan) (mapping []) trivial
  obtain ⟨hiff, -, hvalues, hkeys⟩ := converts_iff settings
  exact ⟨hok, (hiff.mp hok).1, hvalue, hvalues _ hvalue, hkey, hkeys _ hkey,
    (converts_iff settingsTagged).2.1 _ rfl⟩

/-- A tag on a key is not let pass, although JSON can express the key. -/
theorem exists_refused_key : ∃ t t' v e, TagsKey t t' ∧ toJson t = .ok v ∧ Convertible t' ∧
    toJson t' = .error e := by
  refine ⟨mapping [(string "a", null)], mapping [(tagged "!t" (string "a"), null)], _, _,
    .key [] [] "!t" (string "a") null trivial, rfl, ⟨?_, ?_⟩, rfl⟩
  · intro x hx
    cases hx with
    | value he h =>
        rw [List.mem_singleton.mp he] at h
        cases h
  · rintro key ⟨entries, e, h, he, rfl⟩
    cases h with
    | self _ =>
        rw [List.mem_singleton.mp he]
        trivial
    | value hentry h =>
        rw [List.mem_singleton.mp hentry] at h
        cases h

end JsonSchema.Yaml
