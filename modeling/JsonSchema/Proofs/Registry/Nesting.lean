import JsonSchema.Proofs.Compilation.Documents
import JsonSchema.Proofs.Registry.Single

/-!
# Anchors inside their resources

An anchor belongs to the resource that its base names, so on the way down to it there is a place
that has the URL of the resource. A reference to that URL leads to the first place that has it.
Where several have it, the anchor may be inside another one: the indexes of resources and of anchors
each keep the first entry of a key, and the first of the one need not belong to the first of the
other.
-/

namespace JsonSchema

open Declarations

namespace Url

variable {base url url' : Url} {cs : List Char} {s t name : String}

theorem getLast?_of_dropWhile {p : Char → Bool} {c : Char}
    (h : (cs.dropWhile p).getLast? = some c) : cs.getLast? = some c := by
  obtain ⟨front, hfront⟩ := List.dropWhile_suffix p (l := cs)
  rw [← hfront, List.getLast?_append, h, Option.some_or]

/-- Where two texts meet without a blank, their significant characters do. -/
theorem significant_append (hlast : ∀ c, s.toList.getLast? = some c → 0x20 < c.toNat)
    (hhead : ∀ c, t.toList.head? = some c → 0x20 < c.toNat) :
    significant (s ++ t) = significant s ++ significant t := by
  let isBlank (c : Char) : Bool := c.toNat ≤ 0x20
  have hstart : t.toList.dropWhile isBlank = t.toList :=
    dropWhile_eq_self_iff.mpr fun c hc => by simpa [isBlank] using hhead c hc
  have hend : (s.toList.dropWhile isBlank).reverse.dropWhile isBlank =
      (s.toList.dropWhile isBlank).reverse := by
    apply dropWhile_eq_self_iff.mpr
    intro c hc
    rw [List.head?_reverse] at hc
    simpa [isBlank] using hlast c (getLast?_of_dropWhile hc)
  have hleft : (s.toList ++ t.toList).dropWhile isBlank =
      s.toList.dropWhile isBlank ++ t.toList := by
    rw [List.dropWhile_append]
    split
    · rename_i hempty
      rw [List.isEmpty_iff.mp hempty, hstart, List.nil_append]
    · rfl
  have hright : (s.toList.dropWhile isBlank ++ t.toList).reverse.dropWhile isBlank =
      t.toList.reverse.dropWhile isBlank ++ (s.toList.dropWhile isBlank).reverse := by
    rw [List.reverse_append, List.dropWhile_append]
    split
    · rename_i hempty
      rw [List.isEmpty_iff.mp hempty, hend, List.nil_append]
    · rfl
  have htrim (x : String) : significant x =
      ((x.toList.dropWhile isBlank).reverse.dropWhile isBlank).reverse.filter
        fun c => c ≠ '\t' && c ≠ '\n' && c ≠ '\r' := rfl
  rw [htrim, htrim s, htrim t, String.toList_append, hleft, hright, hend, hstart,
    List.reverse_append, List.reverse_reverse, List.filter_append]

/-- A fragment behind a reference changes nothing but the fragment of its URL. -/
theorem join_append_fragment (hsharp : '#' ∉ s.toList)
    (hlast : ∀ c, s.toList.getLast? = some c → 0x20 < c.toNat) (h : base.join s = .ok url)
    (h' : base.join (s ++ ("#" ++ name)) = .ok url') :
    url.fragment = none ∧ url' = { url with fragment := some (ownFragment ("#" ++ name)) } := by
  have hnotMem : '#' ∉ significant s := fun hmem => hsharp ((significant_sublist s).subset hmem)
  refine ⟨fragment_of_join hnotMem h, ?_⟩
  obtain ⟨rest, hrest⟩ := exists_significant_of_isFragmentOnly (isFragmentOnly_append name)
  have hhead : ("#" ++ name).toList.head? = some '#' := by simp
  have hfragment : ownFragment ("#" ++ name) = readFragment rest := by
    rw [ownFragment, hrest, List.drop_one, List.tail_cons]
  rw [join, read_eq, significant_append hlast (by rw [hhead]; rintro _ ⟨⟩; decide), hrest] at h'
  rw [join, read_eq] at h
  by_cases hempty : significant s = []
  · have hscheme : splitScheme [] = none := rfl
    have hscheme' : splitScheme ('#' :: rest) = none := rfl
    rw [hempty] at h h'
    simp only [readSignificant, hscheme] at h
    simp only [List.nil_append, readSignificant, hscheme'] at h'
    rw [hfragment]
    split at h
    · cases h
    · split at h
      · rw [← Except.ok.inj h, ← Except.ok.inj h']
      · rw [← Except.ok.inj h, ← Except.ok.inj h']
  · have hextended := extended_readSignificant (.fragment rest) hnotMem hempty (some base)
    generalize readSignificant (some base) (significant s) = x at h hextended
    generalize readSignificant (some base) (significant s ++ '#' :: rest) = y at h' hextended
    cases hextended with
    | same =>
        subst h
        rw [hfragment]
        exact (Except.ok.inj h').symm
    | lone => cases h'

end Url

/-! ## The way down to an anchor -/

namespace Document

variable {base b uri : Url} {v w : Value} {d : Document} {path : List String} {p : Pointer}
variable {name : String}

/-- A value has an `$id` that names a resource: it joins to a URL and is more than a fragment. -/
def IdentifiedAs (b : Url) (w : Value) (uri : Url) : Prop :=
  ∃ members id url, w = .object members ∧ members.lookup "$id" = some (.string id) ∧
    isFragmentOnly id = false ∧ b.join id = .ok url ∧ url.withoutFragment = uri

/-- The base inside a value is that in front of it, or the URL that it has by its `$id`. -/
theorem eq_or_identifiedAs_of_baseInside (hbare : b.withoutFragment = b)
    (h : baseInside b w = .ok uri) : uri = b ∨ IdentifiedAs b w uri := by
  unfold baseInside at h
  split at h
  · rename_i id hid
    obtain ⟨url, hurl, rfl⟩ := map_eq_ok.mp h
    have hjoin := joinId_eq_ok.mp hurl
    by_cases hfragment : isFragmentOnly id = true
    · rw [Url.join_of_isFragmentOnly b hfragment] at hjoin
      left
      rw [← Except.ok.inj hjoin]
      exact hbare
    · right
      cases w with
      | object members => exact ⟨members, id, url, rfl, hid, by simpa using hfragment, hjoin, rfl⟩
      | _ => simp [Value.get?] at hid
  · left
    exact (Except.ok.inj h).symm

/-- The base inside a value is the one at the start of a way down to it, and nothing at the start
changes that, or it is the URL of a value on the way. -/
theorem Along.exists_identifiedAs (h : Along base v path b w) (hbare : base.withoutFragment = base)
    (hinside : baseInside b w = .ok uri) :
    (uri = base ∧ baseInside base v = .ok base) ∨
      ∃ front b' x, front <+: path ∧ Along base v front b' x ∧ IdentifiedAs b' x uri := by
  induction path generalizing base v with
  | nil =>
      obtain rfl : v = w := Option.some.inj h.follow
      obtain rfl : base = b := Except.ok.inj (h.base (.unretrievable base))
      rcases eq_or_identifiedAs_of_baseInside hbare hinside with rfl | hid
      · exact .inl ⟨rfl, hinside⟩
      · exact .inr ⟨[], base, v, List.nil_prefix, .refl base v, hid⟩
  | cons token path ih =>
      obtain ⟨inner, child, hstart, hchild, hrest⟩ := h.exists_step
      rcases ih hrest (withoutFragment_of_baseInside hbare hstart) with
        ⟨rfl, -⟩ | ⟨front, b', x, hfront, halong, hid⟩
      · rcases eq_or_identifiedAs_of_baseInside hbare hstart with rfl | hid
        · exact .inl ⟨rfl, hstart⟩
        · exact .inr ⟨[], base, v, List.nil_prefix, .refl base v, hid⟩
      · right
        refine ⟨token :: front, b', x, ?_, .cons hstart hchild halong, hid⟩
        exact List.cons_prefix_cons.mpr ⟨rfl, hfront⟩

/-- A document has its URL by its base, or by an `$id` of its own. -/
def Titled (d : Document) : Prop :=
  d.base = d.uri ∨ baseInside d.base d.contents = .ok d.uri

/-- Down to an anchor there is a position that has the URL which the anchor belongs to. -/
theorem Titled.exists_identifies (ht : d.Titled) (hbare : d.base.withoutFragment = d.base)
    (h : d.Names uri name p) : ∃ q : Pointer, q.tokens <+: p.tokens ∧ d.Identifies uri q := by
  obtain ⟨members, b, hat, hbase, hinside, -⟩ := h
  have halong := along_iff.mpr ⟨hat, hbase⟩
  rcases halong.exists_identifiedAs hbare hinside with ⟨rfl, hroot⟩ |
    ⟨front, b', x, hfront, halong', members', id, url, rfl, hid, hfragment, hurl, huri⟩
  · refine ⟨.root, List.nil_prefix, .inl ⟨rfl, ?_⟩⟩
    rcases ht with hbase | hnamed
    · exact hbase
    · exact Except.ok.inj (hroot.symm.trans hnamed)
  · obtain ⟨hat', hbase'⟩ := (along_iff (p := ⟨front⟩)).mp halong'
    exact ⟨⟨front⟩, hfront, .inr ⟨members', b', id, url, hat', hbase', hid, hfragment, hurl, huri⟩⟩

/-- A document declares the URLs of its visited positions. -/
theorem WellRead.mem_keys_iff (h : d.WellRead) :
    uri ∈ d.resources.map Prod.fst ↔ ∃ q : Pointer, q.Visited ∧ d.Identifies uri q := by
  constructor
  · intro hmem
    obtain ⟨⟨_, place⟩, hentry, rfl⟩ := List.mem_map.mp hmem
    obtain ⟨document, q⟩ := place
    obtain rfl : document = d.uri := document_of_mem_resources hentry
    exact ⟨q, h.mem_resources_iff.mp hentry⟩
  · rintro ⟨q, hq⟩
    exact List.mem_map.mpr ⟨_, h.mem_resources_iff.mpr hq, rfl⟩

end Document

/-- A place is at another one or below it. -/
structure Place.Within (p q : Place) : Prop where
  document : p.document = q.document
  pointer : q.pointer.tokens <+: p.pointer.tokens

namespace Registry

variable {r : Registry} {retriever : Retriever} {base url uri : Url} {reference u n name : String}
variable {anchor resource : Place}

theorem Reachable.titled (h : r.Reachable) : ∀ d ∈ r.documents, d.Titled :=
  h.forall_documents (fun _ _ => .inl rfl) fun _ _ _ hinside => .inr hinside

theorem Reachable.wellRead (h : r.Reachable) (hr : r.WellFormed) :
    ∀ d ∈ r.documents, d.WellRead := fun d hd =>
  ⟨h.wellIndexed.bareBase d hd, hr d hd, h.evolves.declared d hd⟩

/-- A place that the walk for declarations comes to has a URL. -/
def Declares (r : Registry) (uri : Url) (place : Place) : Prop :=
  ∃ d ∈ r.documents, place.document = d.uri ∧ place.pointer.Visited ∧
    d.Identifies uri place.pointer

/-- How an anchor of the resource under a URL lies to the place of the resource. -/
structure Nested (r : Registry) (uri : Url) (anchor resource : Place) : Prop where
  /-- The anchor is inside a place that has the URL. -/
  enclosed : ∃ place, r.Declares uri place ∧ anchor.Within place
  /-- If no other place has the URL, the anchor is inside the resource. -/
  within_of_unique : (∀ place, r.Declares uri place → place = resource) → anchor.Within resource
  /-- It is so exactly if no document before its own declares the URL, and the first declaration of
  the URL in its own document is on the way down to it. -/
  within_iff : ∃ before d after, r.documents = before ++ d :: after ∧ d.uri = anchor.document ∧
    (anchor.Within resource ↔
      (∀ e ∈ before, ∀ q : Pointer, q.Visited → ¬e.Identifies uri q) ∧
      ∃ q : Pointer, d.resources.lookup uri = some ⟨d.uri, q⟩ ∧ q.tokens <+: anchor.pointer.tokens)

/-- The resource under a URL is in a document exactly if the document declares the URL there first,
and no document before it declares it. -/
theorem WellIndexed.resource_eq_iff (hr : r.WellIndexed) {before after : List Document}
    {d : Document} (hdocuments : r.documents = before ++ d :: after) {q : Pointer} :
    r.resources.lookup uri = some ⟨d.uri, q⟩ ↔
      (∀ e ∈ before, uri ∉ e.resources.map Prod.fst) ∧
        d.resources.lookup uri = some ⟨d.uri, q⟩ := by
  have hdistinct := hr.distinct
  rw [hr.lookup_resources]
  rw [hdocuments] at hdistinct ⊢
  have hskip (hfirst : ∀ e ∈ before, uri ∉ e.resources.map Prod.fst) {place : Place}
      (hplace : d.resources.lookup uri = some place) :
      ((before ++ d :: after).flatMap Document.resources).lookup uri = some place := by
    have hnone : (before.flatMap Document.resources).lookup uri = none := by
      apply List.lookup_eq_none_iff.mpr
      intro entry hentry
      obtain ⟨e, he, hmem⟩ := List.mem_flatMap.mp hentry
      have hne : entry.1 ≠ uri := fun heq => hfirst e he (heq ▸ List.mem_map_of_mem hmem)
      simpa using hne.symm
    rw [List.flatMap_append, List.flatMap_cons, List.lookup_append, hnone, Option.none_or,
      List.lookup_append, hplace, Option.some_or]
  constructor
  · intro hlookup
    obtain ⟨hkey, hfirst⟩ := (document_eq_iff (fun _ _ => Document.document_of_mem_resources)
      hdistinct hlookup).mp rfl
    obtain ⟨place, hplace⟩ := exists_lookup hkey
    rw [← hlookup, hskip hfirst hplace]
    exact ⟨hfirst, hplace⟩
  · rintro ⟨hfirst, hplace⟩
    exact hskip hfirst hplace

theorem Reachable.nested (h : r.Reachable) (hr : r.WellFormed)
    (hresource : r.resources.lookup uri = some resource)
    (hanchor : r.anchors.lookup (uri, name) = some anchor) : r.Nested uri anchor resource := by
  have hindexed := h.wellIndexed
  rw [hindexed.lookup_anchors] at hanchor
  obtain ⟨d, hd, hmem⟩ := List.mem_flatMap.mp (mem_of_lookup hanchor)
  have hdocument : anchor.document = d.uri := d.within_declared.anchors _ hmem
  obtain ⟨document, p⟩ := anchor
  obtain rfl : document = d.uri := hdocument
  have hread := h.wellRead hr d hd
  obtain ⟨hp, hname⟩ := hread.mem_anchors_iff.mp hmem
  obtain ⟨q, hq, hidentifies⟩ := (h.titled d hd).exists_identifies hread.bareBase hname
  have hvisited : q.Visited := fun token htoken => hp token (hq.subset htoken)
  have henclosing : r.Declares uri ⟨d.uri, q⟩ := ⟨d, hd, rfl, hvisited, hidentifies⟩
  refine ⟨⟨⟨d.uri, q⟩, henclosing, rfl, hq⟩, fun hunique => ?_, ?_⟩
  · rw [← hunique _ henclosing]
    exact ⟨rfl, hq⟩
  · obtain ⟨before, after, hdocuments⟩ := List.append_of_mem hd
    have hbefore : (∀ e ∈ before, uri ∉ e.resources.map Prod.fst) ↔
        ∀ e ∈ before, ∀ q : Pointer, q.Visited → ¬e.Identifies uri q := by
      refine forall₂_congr fun e he => ?_
      have hmem : e ∈ r.documents := by
        rw [hdocuments]
        exact List.mem_append_left _ he
      simp [(h.wellRead hr e hmem).mem_keys_iff]
    refine ⟨before, d, after, hdocuments, rfl, ?_⟩
    rw [← hbefore]
    constructor
    · rintro ⟨hsame, hprefix⟩
      obtain ⟨document, q⟩ := resource
      obtain rfl : d.uri = document := hsame
      obtain ⟨hfirst, hlookup⟩ := (hindexed.resource_eq_iff hdocuments).mp hresource
      exact ⟨hfirst, q, hlookup, hprefix⟩
    · rintro ⟨hfirst, q, hlookup, hprefix⟩
      have hfound := (hindexed.resource_eq_iff hdocuments).mpr ⟨hfirst, hlookup⟩
      rw [Option.some.inj (hresource.symm.trans hfound)]
      exact ⟨rfl, hprefix⟩

/-! ## Following references -/

/-- A reference that was followed was located in the registry left behind. -/
theorem Evolves.locate_of_resolve (h : Evolves {} r) (hr : r.WellFormed)
    (hretriever : retriever.WellFormed) (hjoin : base.join reference = .ok url) {t : Target}
    (hresolve : (r.resolve retriever base reference).1 = .ok t) :
    ∃ resource R, r.resource retriever url.withoutFragment = (.ok resource, R) ∧
      R.locate base reference url.withoutFragment (url.fragment.getD "") resource = .ok t.place ∧
      (r.resolve retriever base reference).2 = R := by
  have hsuffices := h.indexSuffices hr hretriever base reference
  cases hresource : r.resource retriever url.withoutFragment with
  | mk result R =>
      cases result with
      | error e => simp [resolve, hjoin, hresource] at hresolve
      | ok resource =>
          cases hlocate : R.locate base reference url.withoutFragment (url.fragment.getD "")
              resource with
          | error e => simp [resolve, hjoin, hresource, hlocate] at hresolve
          | ok place =>
              obtain ⟨-, hkept⟩ := hsuffices.kept url resource R place hjoin hresource hlocate
              simp only [resolve, hjoin, hresource, hlocate] at hresolve ⊢
              obtain ⟨-, hplace⟩ := isTarget_of_target (Prod.ext hresolve rfl)
              exact ⟨resource, R, rfl, by rw [hplace]; exact hlocate, hkept⟩

/-- A reference and the same with a plain name behind it: how the places that they lead to lie to
each other. -/
theorem Reachable.nested_of_placeOf (h : r.Reachable) (hr : r.WellFormed)
    (hretriever : retriever.WellFormed) (hsharp : '#' ∉ u.toList)
    (hlast : ∀ c, u.toList.getLast? = some c → 0x20 < c.toNat)
    (hname : isPointerFragment (Url.ownFragment ("#" ++ n)) = false)
    (hanchor : r.placeOf retriever base (u ++ ("#" ++ n)) = .ok anchor)
    (hresource : r.placeOf retriever base u = .ok resource) :
    ∃ url, base.join u = .ok url ∧
      (r.resolve retriever base u).2.Nested url.withoutFragment anchor resource := by
  have hevolves := h.evolves
  obtain ⟨t, ht, rfl⟩ := map_eq_ok.mp hanchor
  obtain ⟨t', ht', rfl⟩ := map_eq_ok.mp hresource
  cases hjoin : base.join u with
  | error e => simp [Registry.resolve, hjoin] at ht'
  | ok url =>
      cases hjoin' : base.join (u ++ ("#" ++ n)) with
      | error e => simp [Registry.resolve, hjoin'] at ht
      | ok named =>
          obtain ⟨hnone, rfl⟩ := Url.join_append_fragment hsharp hlast hjoin hjoin'
          obtain ⟨place, R, hfound, hlocate, hleft⟩ :=
            hevolves.locate_of_resolve hr hretriever hjoin ht'
          obtain ⟨place', R', hfound', hlocate', -⟩ :=
            hevolves.locate_of_resolve hr hretriever hjoin' ht
          -- Both ask for the same resource, so they leave the same registry.
          have hsame : r.resource retriever url.withoutFragment = (.ok place', R') := hfound'
          obtain ⟨rfl, rfl⟩ : place = place' ∧ R = R' := by simpa [hfound] using hsame
          have hplace : place = t'.place := by
            rw [hnone] at hlocate
            exact Except.ok.inj hlocate
          obtain ⟨hlookup, -⟩ := hevolves.sound_of_resource hr hretriever hfound
          have hreachable := h.resolve retriever base u
          have hwf := wellFormed_resolve base u hr hretriever
          rw [hleft] at hreachable hwf ⊢
          exact ⟨url, rfl, hreachable.nested hwf (hplace ▸ hlookup)
            ((place_of_locate hlocate').2 hname)⟩

/-- The place of an item in the document with a part that has an `$id` and an anchor. -/
def itemPlace : Place := ⟨catalogueUri, ⟨["$defs", "item"]⟩⟩

theorem nested_catalogue : ∃ r : Registry, r.Reachable ∧
    r.placeOf {} catalogueUri ("item" ++ ("#" ++ "top")) = .ok itemPlace ∧
      r.placeOf {} catalogueUri "item" = .ok itemPlace ∧
        ∃ url, catalogueUri.join "item" = .ok url ∧
          (r.resolve {} catalogueUri "item").2.Nested url.withoutFragment itemPlace itemPlace := by
  let r : Registry := (Registry.insert {} catalogueUri catalogue).2
  have hr : r.Reachable := .insert catalogueUri catalogue .empty
  have hwf : r.WellFormed := by decide +kernel
  have hretriever := Retriever.wellFormed_empty
  have hanchor : r.placeOf {} catalogueUri ("item" ++ ("#" ++ "top")) = .ok itemPlace := by
    decide +kernel
  have hresource : r.placeOf {} catalogueUri "item" = .ok itemPlace := by decide +kernel
  have hlast : ∀ c, "item".toList.getLast? = some c → 0x20 < c.toNat := by
    intro c hc
    obtain rfl : 'm' = c := by simpa using hc
    decide
  exact ⟨r, hr, hanchor, hresource, hr.nested_of_placeOf hwf hretriever (by decide) hlast
    (by decide +kernel) hanchor hresource⟩

/-! ## Two documents with one URL -/

/-- A document with a part under the URL `/r`. -/
def hostDocument : Value := .object [("$defs", .object [("x", .object [("$id", .string "/r")])])]

/-- A document with an anchor. -/
def guestDocument : Value :=
  .object [("$defs", .object [("n", .object [("$anchor", .string "n")])])]

/-- The URL of the first document. -/
def hostUri : Url := { Url.ownBase with path := "/a" }

/-- The URL of the second document, which is that of the part as well. -/
def guestUri : Url := { Url.ownBase with path := "/r" }

/-- The part of the first document keeps the URL, and the second document has the anchor. -/
theorem exists_foreign_anchor : ∃ (r : Registry) (retriever : Retriever) (base : Url) (u n : String)
    (anchor resource : Place), r.Reachable ∧ r.WellFormed ∧ '#' ∉ u.toList ∧
      isPointerFragment (Url.ownFragment ("#" ++ n)) = false ∧
        r.placeOf retriever base (u ++ ("#" ++ n)) = .ok anchor ∧
        r.placeOf retriever base u = .ok resource ∧ anchor.document ≠ resource.document := by
  let r : Registry := ((Registry.insert {} hostUri hostDocument).2.insert guestUri guestDocument).2
  have hr : r.Reachable := .insert guestUri guestDocument (.insert hostUri hostDocument .empty)
  exact ⟨r, {}, hostUri, "/r", "n", ⟨guestUri, ⟨["$defs", "n"]⟩⟩, ⟨hostUri, ⟨["$defs", "x"]⟩⟩, hr,
    by decide +kernel, by decide, by decide +kernel, by decide +kernel, by decide +kernel,
    by decide⟩

end Registry
end JsonSchema
