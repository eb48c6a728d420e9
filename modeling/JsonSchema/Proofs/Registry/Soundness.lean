import JsonSchema.Proofs.Compilation.Build
import JsonSchema.Proofs.Registry.Kept
import JsonSchema.Proofs.Registry.Positions

/-!
# What an index says is so

The indexes are made by one walk through a document before it is kept, and are read long after. Each
entry still names a position in a document that is kept, where the other walk finds the base that
the entry was made with. So a reference that was located is in a document that is there.
-/

namespace JsonSchema

/-- No document of the retriever has a key twice. -/
def Retriever.WellFormed (f : Retriever) : Prop :=
  ∀ uri contents, f.find? uri = some contents → contents.WellFormed

/-- No document of the store has a key twice. -/
def Store.WellFormed (s : Store) : Prop := ∀ d ∈ s.documents, d.2.WellFormed

theorem Retriever.wellFormed_empty : Retriever.WellFormed {} := nofun

theorem Store.WellFormed.retriever {s : Store} (h : s.WellFormed) : s.retriever.WellFormed :=
  fun _ _ hfind => h _ (mem_of_lookup hfind)

namespace Declarations

/-! ## Malformed declarations -/

/-- The text of a reference is malformed. -/
def Malformed (e : ResolutionError) : Prop :=
  ∃ base reference fault, e = .invalidReference base reference fault

variable {base : Url} {place : Place} {e : ResolutionError}

theorem malformed_of_joinId {id : String} (h : joinId base id = .error e) : Malformed e := by
  unfold joinId at h
  split at h
  · cases h
  · cases h
    exact ⟨_, _, _, rfl⟩

theorem malformed_of_ofId {id : String} (h : ofId base place id = .error e) : Malformed e := by
  unfold ofId at h
  split at h
  · rename_i hjoin
    cases h
    exact malformed_of_joinId hjoin
  · cases h

theorem malformed_of_ofObject {members : List (String × Value)}
    (h : ofObject base place members = .error e) : Malformed e := by
  unfold ofObject at h
  split at h <;> dsimp only at h <;> split at h <;>
    rcases bind_eq_error.mp h with hid | ⟨_, _, h⟩
  · exact malformed_of_ofId hid
  · cases h
  · cases hid
  · cases h
  · exact malformed_of_ofId hid
  · cases h
  · cases hid
  · cases h

/-- The only reason not to keep a document is a malformed `$id`. -/
theorem malformed_of_ofValue (base : Url) (place : Place) (v : Value)
    (h : ofValue base place v = .error e) : Malformed e := by
  obtain ⟨_, _, _, -, herror⟩ := exists_scanned_of_error base place v h
  exact malformed_of_ofObject herror

end Declarations

namespace Registry

variable {r r' : Registry} {retriever : Retriever}

/-! ## Well-formed documents -/

/-- No document has a key twice. -/
def WellFormed (r : Registry) : Prop := ∀ d ∈ r.documents, d.contents.WellFormed

instance : Decidable r.WellFormed :=
  inferInstanceAs (Decidable (∀ d ∈ r.documents, d.contents.WellFormed))

theorem WellFormed.of_grows (h : r'.WellFormed) (hg : Grows r r') : r.WellFormed :=
  fun d hd => h d (hg.documents.subset hd)

theorem wellFormed_resource (uri : Url) (h : r.WellFormed) (hretriever : retriever.WellFormed) :
    (r.resource retriever uri).2.WellFormed :=
  forall_resource uri h hretriever

theorem wellFormed_load (uri : Url) (h : r.WellFormed) (hretriever : retriever.WellFormed) :
    (r.load retriever uri).2.WellFormed :=
  forall_load uri h hretriever

theorem wellFormed_resolve (base : Url) (reference : String) (h : r.WellFormed)
    (hretriever : retriever.WellFormed) : (r.resolve retriever base reference).2.WellFormed :=
  forall_resolve base reference h hretriever

theorem wellFormed_insert (uri : Url) {contents : Value} (h : r.WellFormed)
    (hcontents : contents.WellFormed) : (r.insert uri contents).2.WellFormed :=
  forall_insertAt uri uri contents h hcontents

/-! ## Entries -/

/-- The resource under a URL is the whole of the document kept under it, or an object whose `$id`,
at the base of its position, is that URL. -/
def ResourceAt (r : Registry) (uri : Url) (place : Place) : Prop :=
  ∃ d, r.find? place.document = some d ∧
    (place.pointer = .root ∧ uri = d.uri ∨
      ∃ members base id url, d.contents.at? place.pointer = some (.object members) ∧
        d.baseAt place.pointer = .ok base ∧ members.lookup "$id" = some (.string id) ∧
        Declarations.isFragmentOnly id = false ∧ base.join id = .ok url ∧
        url.withoutFragment = uri)

/-- A name in the resource under a URL is an `$anchor`, or the fragment of an `$id`, of an object
inside which that URL is the base. -/
def AnchorAt (r : Registry) (uri : Url) (name : String) (place : Place) : Prop :=
  ∃ d members base, r.find? place.document = some d ∧
    d.contents.at? place.pointer = some (.object members) ∧ d.baseAt place.pointer = .ok base ∧
    Document.baseInside base (.object members) = .ok uri ∧
    (members.lookup "$anchor" = some (.string name) ∨
      ∃ id url, members.lookup "$id" = some (.string id) ∧ base.join id = .ok url ∧
        url.fragment = some name)

theorem ResourceAt.grows {uri : Url} {place : Place} (h : r.ResourceAt uri place)
    (hg : Grows r r') : r'.ResourceAt uri place := by
  obtain ⟨d, hd, hrest⟩ := h
  exact ⟨d, hg.find? hd, hrest⟩

theorem AnchorAt.grows {uri : Url} {name : String} {place : Place} (h : r.AnchorAt uri name place)
    (hg : Grows r r') : r'.AnchorAt uri name place := by
  obtain ⟨d, members, base, hd, hrest⟩ := h
  exact ⟨d, members, base, hg.find? hd, hrest⟩

/-- Whatever is declared can be found in a registry. -/
structure Found (r : Registry) (declared : Declarations) : Prop where
  resources : ∀ e ∈ declared.resources, r.ResourceAt e.1 e.2
  anchors : ∀ e ∈ declared.anchors, r.AnchorAt e.1.1 e.1.2 e.2

/-- What is so of positions of a document is found where the document is kept. -/
theorem found_of_placed {d : Document} {declared : Declarations} (hd : r.find? d.uri = some d)
    (h : d.Placed declared) : r.Found declared := by
  constructor
  · intro e he
    obtain ⟨hdocument, -, hidentifies⟩ := h.resources e he
    exact ⟨d, by rwa [hdocument], hidentifies⟩
  · intro e he
    obtain ⟨hdocument, -, members, base, hat, hbase, hinside, hname⟩ := h.anchors e he
    exact ⟨d, members, base, by rwa [hdocument], hat, hbase, hinside, hname.imp_right And.right⟩

/-- The indexes say what is so, and every document is in them. -/
structure Sound (r : Registry) : Prop where
  resources : ∀ e ∈ r.resources, r.ResourceAt e.1 e.2
  anchors : ∀ e ∈ r.anchors, r.AnchorAt e.1.1 e.1.2 e.2
  documents : ∀ d ∈ r.documents, d.uri ∈ r.resources.map Prod.fst

theorem sound_empty : Sound {} := by
  constructor <;> simp

theorem mem_or_eq_of_mem_addNew {α β : Type} [BEq α] {entries : List (α × β)} {entry e : α × β}
    (h : e ∈ addNew entries entry) : e ∈ entries ∨ e = entry := by
  unfold addNew at h
  split at h
  · exact .inl h
  · simpa using h

theorem mem_or_mem_of_mem_foldl_addNew {α β : Type} [BEq α] {entries new : List (α × β)}
    {e : α × β} (h : e ∈ new.foldl addNew entries) : e ∈ entries ∨ e ∈ new := by
  induction new generalizing entries with
  | nil => exact .inl h
  | cons entry new ih =>
      rcases ih h with h | h
      · rcases mem_or_eq_of_mem_addNew h with h | rfl
        · exact .inl h
        · exact .inr List.mem_cons_self
      · exact .inr (List.mem_cons_of_mem entry h)

theorem Step.sound (h : Step r r') (hindexed : WellIndexed r') (hwf : r'.WellFormed)
    (hr : Sound r) : Sound r' := by
  have hg := h.grows
  cases h with
  | ask => exact ⟨hr.resources, hr.anchors, hr.documents⟩
  | @keep d declared fresh bare bareBase h =>
      have hmem : d ∈ (r.keep d declared).documents := by simp
      have hd := hindexed.find?_of_mem hmem
      have hdeclared : d.declared = declared := by rw [Document.declared, h]
      have hread : d.WellRead := ⟨bareBase, hwf d hmem, by rw [hdeclared, h]⟩
      have hfound : (r.keep d declared).Found declared :=
        found_of_placed hd (hdeclared ▸ hread.placed)
      refine ⟨fun e he => ?_, fun e he => ?_, fun e he => ?_⟩
      · rcases mem_or_mem_of_mem_foldl_addNew he with he | he
        · rcases mem_or_eq_of_mem_addNew he with he | rfl
          · exact (hr.resources e he).grows hg
          · exact ⟨d, hd, .inl ⟨rfl, rfl⟩⟩
        · exact hfound.resources e he
      · rcases mem_or_mem_of_mem_foldl_addNew he with he | he
        · exact (hr.anchors e he).grows hg
        · exact hfound.anchors e he
      · obtain ⟨place, hplace⟩ := hindexed.exists_resource (hindexed.find?_of_mem he)
        exact List.mem_map_of_mem (mem_of_lookup hplace)

theorem Evolves.sound (h : Evolves {} r) (hwf : r.WellFormed) : Sound r := by
  induction h with
  | refl => exact sound_empty
  | tail hevolves hstep ih =>
      have hindexed := hstep.wellIndexed (Evolves.wellIndexed hevolves wellIndexed_empty)
      exact hstep.sound hindexed hwf (ih (hwf.of_grows hstep.grows))

/-! ## Resolution -/

/-- A document is kept under a URL without a fragment. -/
theorem WellIndexed.get?_of_find? (hr : WellIndexed r) {uri : Url} {d : Document}
    (h : r.find? uri = some d) : r.get? uri = some d := by
  have huri : d.uri = uri := by simpa using List.find?_some h
  have hbare := hr.bare d (List.mem_of_find?_eq_some h)
  rwa [get?, ← huri, hbare, huri]

theorem ResourceAt.exists_target (hr : WellIndexed r) {uri : Url} {place : Place}
    (h : r.ResourceAt uri place) : ∃ t, r.IsTarget t ∧ t.place = place := by
  obtain ⟨d, hd, hposition⟩ := h
  have hget := hr.get?_of_find? hd
  rcases hposition with ⟨hroot, -⟩ | ⟨members, base, id, url, hat, hbase, -⟩
  · refine ⟨⟨place.document, .root, d.base, d.contents⟩, ⟨d, hget, rfl, rfl⟩, ?_⟩
    rw [← hroot]
    rfl
  · exact ⟨⟨place.document, place.pointer, base, .object members⟩, ⟨d, hget, hat, hbase⟩, rfl⟩

theorem AnchorAt.exists_target (hr : WellIndexed r) {uri : Url} {name : String} {place : Place}
    (h : r.AnchorAt uri name place) : ∃ t, r.IsTarget t ∧ t.place = place := by
  obtain ⟨d, members, base, hd, hat, hbase, -⟩ := h
  exact ⟨⟨place.document, place.pointer, base, .object members⟩,
    ⟨d, hr.get?_of_find? hd, hat, hbase⟩, rfl⟩

/-- A reference is located in a document that is kept, and unless its fragment is a pointer there is
something. -/
theorem Sound.document_of_locate (h : Sound r) (hr : WellIndexed r) {base uri : Url}
    {reference fragment : String} {resource place : Place}
    (hresource : r.resources.lookup uri = some resource)
    (hlocate : r.locate base reference uri fragment resource = .ok place) :
    (∃ d, r.get? place.document = some d) ∧
      (fragment.toList.head? ≠ some '/' → ∃ t, r.IsTarget t ∧ t.place = place) := by
  have hresource := (h.resources _ (mem_of_lookup hresource)).exists_target hr
  have hdocument {place : Place} (ht : ∃ t, r.IsTarget t ∧ t.place = place) :
      ∃ d, r.get? place.document = some d := by
    obtain ⟨t, ⟨d, hd, -⟩, rfl⟩ := ht
    exact ⟨d, hd⟩
  unfold locate at hlocate
  split at hlocate
  · cases hlocate
    exact ⟨hdocument hresource, fun _ => hresource⟩
  · rename_i hslash
    split at hlocate
    · cases hlocate
      have hkept : ∃ d, r.get? resource.document = some d := hdocument hresource
      exact ⟨hkept, fun hne => absurd (by rw [hslash]; rfl) hne⟩
    · cases hlocate
  · split at hlocate
    · rename_i hanchor
      cases hlocate
      have hanchor := (h.anchors _ (mem_of_lookup hanchor)).exists_target hr
      exact ⟨hdocument hanchor, fun _ => hanchor⟩
    · cases hlocate

theorem target_eq_of_get? {place : Place} {d : Document} (h : r.get? place.document = some d) :
    (r.target retriever place).2 = r := by
  rw [snd_target, load_of_get? h]

theorem error_of_resource {uri : Url} {e : ResolutionError}
    (h : r.resource retriever uri = (.error e, r')) :
    Declarations.Malformed e ∨ e = .unretrievable uri.withoutFragment := by
  unfold resource at h
  split at h
  · simp at h
  · split at h
    · rename_i e' r'' hload
      obtain rfl : e' = e := by simpa using congrArg Prod.fst h
      unfold load at hload
      dsimp only at hload
      split at hload
      · simp at hload
      · split at hload
        · unfold add at hload
          split at hload
          · simp at hload
          · rename_i e'' hdeclared
            obtain rfl : e'' = e' := by simpa using congrArg Prod.fst hload
            exact .inl (Declarations.malformed_of_ofValue _ _ _ hdeclared)
        · exact .inr (by simpa using (congrArg Prod.fst hload).symm)
    · simp at h

/-- Where a resource was found, the index has it and is sound. -/
theorem Evolves.sound_of_resource (h : Evolves {} r) (hr : r.WellFormed)
    (hretriever : retriever.WellFormed) {uri : Url} {resource : Place} {mid : Registry}
    (hresource : r.resource retriever uri.withoutFragment = (.ok resource, mid)) :
    mid.resources.lookup uri.withoutFragment = some resource ∧ WellIndexed mid ∧ Sound mid := by
  have hevolves := evolves_resource (r := r) retriever uri.withoutFragment
  have hwf := wellFormed_resource uri.withoutFragment hr hretriever
  rw [hresource] at hevolves hwf
  have hwhole : Evolves {} mid := Relation.ReflTransGen.trans h hevolves
  exact ⟨lookup_of_resource (h.wellIndexed wellIndexed_empty) uri.withoutFragment_withoutFragment
    hresource, hwhole.wellIndexed wellIndexed_empty, hwhole.sound hwf⟩

/-- What a sound index spares the one who resolves a reference. -/
structure IndexSuffices (retriever : Retriever) (r : Registry) (base : Url) (reference : String) :
    Prop where
  /-- A resource that is found has an entry: there is no need to take the document for it. -/
  entry : ∀ uri resource mid, r.resource retriever (Url.withoutFragment uri) = (.ok resource, mid) →
    mid.resources.lookup uri.withoutFragment = some resource
  /-- What was located is in a document that is kept, and no retriever is asked any more. -/
  kept : ∀ url resource mid place, base.join reference = .ok url →
    r.resource retriever url.withoutFragment = (.ok resource, mid) →
      mid.locate base reference url.withoutFragment (url.fragment.getD "") resource = .ok place →
        (∃ d, mid.get? place.document = some d) ∧ (mid.target retriever place).2 = mid
  /-- Only a pointer can lead nowhere in a document that is there. -/
  pointer : ∀ uri p, (r.resolve retriever base reference).1 = .error (.pointerNotFound uri p) →
    ∃ url, base.join reference = .ok url ∧ (url.fragment.getD "").toList.head? = some '/'

theorem Evolves.indexSuffices (h : Evolves {} r) (hr : r.WellFormed)
    (hretriever : retriever.WellFormed) (base : Url) (reference : String) :
    IndexSuffices retriever r base reference := by
  refine ⟨fun uri resource mid hresource => (h.sound_of_resource hr hretriever hresource).1, ?_, ?_⟩
  · intro url resource mid place _ hresource hlocate
    obtain ⟨hlookup, hindexed, hsound⟩ := h.sound_of_resource hr hretriever hresource
    obtain ⟨⟨d, hd⟩, -⟩ := hsound.document_of_locate hindexed hlookup hlocate
    exact ⟨⟨d, hd⟩, target_eq_of_get? hd⟩
  · intro uri p herror
    unfold resolve at herror
    split at herror
    · simp at herror
    · rename_i url hjoin
      refine ⟨url, hjoin, by_contra fun hne => ?_⟩
      dsimp only at herror
      split at herror
      · rename_i e mid hresource
        obtain rfl : e = .pointerNotFound uri p := by simpa using herror
        rcases error_of_resource hresource with ⟨_, _, _, h⟩ | h <;> cases h
      · rename_i resource mid hresource
        obtain ⟨hlookup, hindexed, hsound⟩ := h.sound_of_resource hr hretriever hresource
        split at herror
        · rename_i e hlocate
          obtain rfl : e = .pointerNotFound uri p := by simpa using herror
          unfold locate at hlocate
          split at hlocate
          · cases hlocate
          · split at hlocate <;> cases hlocate
          · split at hlocate <;> cases hlocate
        · rename_i place hlocate
          obtain ⟨-, htarget⟩ := hsound.document_of_locate hindexed hlookup hlocate
          obtain ⟨t, ht, rfl⟩ := htarget hne
          rw [target_of_isTarget ht] at herror
          simp at herror

/-- In every registry that operations come to, the indexes say what is so, and resolving a reference
needs nothing else. -/
theorem Reachable.sound_indexes (h : Reachable r) (hr : r.WellFormed) :
    Sound r ∧ ∀ retriever base reference, Retriever.WellFormed retriever →
      IndexSuffices retriever r base reference :=
  ⟨h.evolves.sound hr, fun _ base reference hretriever =>
    h.evolves.indexSuffices hr hretriever base reference⟩

/-- A document with a part that has an `$id` and an anchor. -/
def catalogue : Value := .object [("$defs", .object [("item", .object [("$id", .string "item"),
  ("$anchor", .string "top"), ("type", .string "object")])])]

/-- The URL of the document. -/
def catalogueUri : Url := { Url.ownBase with path := "/catalogue" }

theorem sound_indexes_catalogue :
    let r := (Registry.insert {} catalogueUri catalogue).2
    (r.resources.lookup { catalogueUri with path := "/item" }).isSome ∧
      (r.anchors.lookup ({ catalogueUri with path := "/item" }, "top")).isSome ∧
      r.Sound ∧ IndexSuffices {} r catalogueUri "item#top" := by
  obtain ⟨hsound, hsuffices⟩ := Reachable.sound_indexes
    (.insert catalogueUri catalogue .empty) (by decide +kernel)
  exact ⟨by decide +kernel, by decide +kernel, hsound, hsuffices {} _ _ Retriever.wellFormed_empty⟩

end Registry
end JsonSchema
