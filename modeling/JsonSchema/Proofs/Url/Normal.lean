import JsonSchema.Proofs.Outcome
import JsonSchema.Proofs.Url.Fragment
import JsonSchema.Proofs.Url.Percent

/-!
# Normal form

A URL in normal form is what its own text is read as. Its text can be given a fragment, and at every
base it is read as that URL with that fragment. A reference that is only a query is read as the
base with that query.
-/

namespace JsonSchema.Url

variable {cs : List Char} {scheme : String} {base : Option Url}

/-! ## Significant characters -/

/-- A text that is read as it stands: no blanks around it, no tabs and line ends in it. -/
structure Trimmed (cs : List Char) : Prop where
  head : ∀ c, cs.head? = some c → 0x20 < c.toNat
  last : ∀ c, cs.getLast? = some c → 0x20 < c.toNat
  inner : ∀ c ∈ cs, c ≠ '\t' ∧ c ≠ '\n' ∧ c ≠ '\r'

theorem dropWhile_eq_self_iff {p : Char → Bool} :
    cs.dropWhile p = cs ↔ ∀ c, cs.head? = some c → p c = false := by
  cases cs with
  | nil => simp
  | cons c cs =>
      by_cases hc : p c = true
      · have hne : cs.dropWhile p ≠ c :: cs := fun h => by
          have hle := (List.dropWhile_suffix p (l := cs)).length_le
          rw [h] at hle
          exact absurd hle (by simp)
        simp [hc, hne]
      · simp [hc]

theorem significant_eq_iff {s : String} : significant s = s.toList ↔ Trimmed s.toList := by
  unfold significant
  generalize s.toList = cs
  dsimp only
  constructor
  · intro h
    have hhead := (List.dropWhile_suffix (·.toNat ≤ 0x20) (l := cs)).sublist
    have hlast := (List.dropWhile_suffix (·.toNat ≤ 0x20)
      (l := (cs.dropWhile (·.toNat ≤ 0x20)).reverse)).sublist.reverse
    rw [List.reverse_reverse] at hlast
    have hinner := List.filter_sublist (p := fun c => c ≠ '\t' && c ≠ '\n' && c ≠ '\r')
      (l := ((cs.dropWhile (·.toNat ≤ 0x20)).reverse.dropWhile (·.toNat ≤ 0x20)).reverse)
    rw [h] at hinner
    -- None of the three leaves anything out, or all of the text would be shorter than itself.
    have hdrop : cs.dropWhile (·.toNat ≤ 0x20) = cs :=
      hhead.eq_of_length_le (hinner.trans hlast).length_le
    rw [hdrop] at h hlast hinner
    have htrim := hlast.eq_of_length_le hinner.length_le
    have hreverse := List.reverse_eq_iff.mp htrim
    rw [htrim, List.filter_eq_self] at h
    refine ⟨fun c hc => ?_, fun c hc => ?_, fun c hc => ?_⟩
    · simpa using dropWhile_eq_self_iff.mp hdrop c hc
    · simpa using dropWhile_eq_self_iff.mp hreverse c (by simpa using hc)
    · simpa [and_assoc] using h c hc
  · intro h
    have hhead : cs.dropWhile (·.toNat ≤ 0x20) = cs :=
      dropWhile_eq_self_iff.mpr fun c hc => by simpa using h.head c hc
    have hlast : cs.reverse.dropWhile (·.toNat ≤ 0x20) = cs.reverse :=
      dropWhile_eq_self_iff.mpr fun c hc => by simpa using h.last c (by simpa using hc)
    rw [hhead, hlast, List.reverse_reverse, List.filter_eq_self]
    intro c hc
    simpa [and_assoc] using h.inner c hc

theorem significant_sublist (s : String) : (significant s).Sublist s.toList := by
  have hhead := (List.dropWhile_suffix (·.toNat ≤ 0x20) (l := s.toList)).sublist
  have hlast := (List.dropWhile_suffix (·.toNat ≤ 0x20)
    (l := (s.toList.dropWhile (·.toNat ≤ 0x20)).reverse)).sublist.reverse
  rw [List.reverse_reverse] at hlast
  exact List.filter_sublist.trans (hlast.trans hhead)

theorem trimmed_of_forall (h : ∀ c ∈ cs, 0x20 < c.toNat) : Trimmed cs := by
  refine ⟨fun c hc => h c (List.mem_of_mem_head? hc), fun c hc => h c (List.mem_of_getLast? hc),
    fun c hc => ?_⟩
  have hlt := h c hc
  refine ⟨?_, ?_, ?_⟩ <;> (rintro rfl; exact absurd hlt (by decide))

theorem Trimmed.append {ds : List Char} (h : Trimmed cs) (hne : cs ≠ []) (h' : Trimmed ds)
    (hne' : ds ≠ []) : Trimmed (cs ++ ds) := by
  refine ⟨fun c hc => ?_, fun c hc => ?_, fun c hc => ?_⟩
  · obtain ⟨first, rest, rfl⟩ := List.exists_cons_of_ne_nil hne
    exact h.head c hc
  · rw [List.getLast?_append_of_ne_nil _ hne'] at hc
    exact h'.last c hc
  · exact (List.mem_append.mp hc).elim (h.inner c) (h'.inner c)

/-- The text of a URL with a fragment behind it is read as it stands if both parts are. -/
theorem Trimmed.append_fragment {fragment : List Char} (h : Trimmed cs) (hne : cs ≠ [])
    (hfragment : ∀ c ∈ fragment, 0x20 < c.toNat) : Trimmed (cs ++ '#' :: fragment) := by
  have hsharp : Trimmed ('#' :: fragment) :=
    trimmed_of_forall (List.forall_mem_cons.mpr ⟨by decide, hfragment⟩)
  exact h.append hne hsharp (List.cons_ne_nil _ _)

/-! ## Hosts -/

/-- A URL of a scheme, with an authority. -/
structure HasAuthority (scheme : String) (u : Url) : Prop where
  scheme : u.scheme = scheme
  authority : u.authority.isSome

theorem hasAuthority_readEnd {u : Url} (h : HasAuthority scheme u) (cs : List Char) :
    HasAuthority scheme (readEnd u cs) := by
  obtain ⟨hscheme, hauthority⟩ := h
  unfold readEnd
  generalize (if (SchemeKind.ofScheme u.scheme).isSpecial then Percent.specialQuery
    else Percent.query) = reserved
  dsimp only
  split
  · split <;> exact ⟨hscheme, hauthority⟩
  · exact ⟨hscheme, hauthority⟩
  · exact ⟨hscheme, hauthority⟩

theorem hasAuthority_readBehindAuthority (scheme : String) (authority : Authority)
    (cs : List Char) : HasAuthority scheme (readBehindAuthority scheme authority cs) := by
  unfold readBehindAuthority
  dsimp only
  split
  · apply hasAuthority_readEnd
    exact ⟨rfl, rfl⟩
  · apply hasAuthority_readEnd
    exact ⟨rfl, rfl⟩

theorem hasAuthority_of_readAuthority {u : Url} (h : readAuthority scheme cs = .ok u) :
    HasAuthority scheme u := by
  unfold readAuthority at h
  obtain ⟨p, -, h⟩ := bind_eq_ok.mp h
  dsimp only at h
  split at h
  · cases h
  · obtain ⟨host, -, h⟩ := bind_eq_ok.mp h
    split at h
    · cases h
    · obtain ⟨q, -, h⟩ := bind_eq_ok.mp h
      split at h
      · cases h
      · cases h
        exact hasAuthority_readBehindAuthority _ _ _

theorem hasAuthority_fileUrl (host : String) (start cs : List Char) :
    HasAuthority "file" (fileUrl host start cs) := by
  apply hasAuthority_readEnd
  exact ⟨rfl, rfl⟩

theorem hasAuthority_of_readFileAuthority {u : Url} (h : readFileAuthority cs = .ok u) :
    HasAuthority "file" u := by
  unfold readFileAuthority at h
  dsimp only at h
  split at h
  · cases h
    exact hasAuthority_fileUrl _ _ _
  · obtain ⟨host, -, h⟩ := bind_eq_ok.mp h
    cases h
    apply hasAuthority_readEnd
    exact ⟨rfl, rfl⟩

theorem hasAuthority_rooted (rest : List Char) :
    HasAuthority "file" (readFile.rooted none rest) :=
  hasAuthority_fileUrl "" [] ('/' :: rest)

theorem hasAuthority_of_readFile {u : Url} (h : readFile none cs = .ok u) :
    HasAuthority "file" u := by
  unfold readFile at h
  dsimp only at h
  split at h
  · split at h
    · exact hasAuthority_of_readFileAuthority h
    · split at h <;> cases h
      · exact hasAuthority_rooted _
      · exact hasAuthority_fileUrl _ _ _
  · split at h <;> cases h
    · exact hasAuthority_rooted _
    · exact hasAuthority_fileUrl _ _ _
  · cases h
    exact hasAuthority_fileUrl _ _ _

theorem eq_file_of_ofScheme (h : SchemeKind.ofScheme scheme = .file) : scheme = "file" := by
  unfold SchemeKind.ofScheme at h
  split at h
  · assumption
  · split at h <;> cases h

/-- A special URL has an authority. -/
theorem hasAuthority_of_readAbsolute {u : Url} (hspecial : SchemeKind.ofScheme scheme ≠ .plain)
    (h : readAbsolute none scheme cs = .ok u) : HasAuthority scheme u := by
  unfold readAbsolute at h
  split at h
  · rename_i hfile
    rw [eq_file_of_ofScheme hfile]
    exact hasAuthority_of_readFile h
  · exact hasAuthority_of_readAuthority h
  · rename_i hplain
    exact absurd hplain hspecial

/-- Behind two slashes the base does not matter. -/
theorem readAbsolute_slashes (base : Option Url) (scheme : String) (rest : List Char) :
    readAbsolute base scheme ('/' :: '/' :: rest) =
      readAbsolute none scheme ('/' :: '/' :: rest) := by
  unfold readAbsolute
  split
  · simp [readFile, SchemeKind.isSlash]
  · have hslash : SchemeKind.network.isSlash '/' = true := by decide
    have hle := (List.dropWhile_suffix SchemeKind.network.isSlash (l := rest)).length_le
    simp only [List.dropWhile_cons, hslash, if_true, List.length_cons]
    split
    · rw [if_neg (by omega)]
      rfl
    · rfl
  · rfl

/-- It does not matter either where the scheme says nothing about the rest. -/
theorem readAbsolute_plain (base : Option Url) (hplain : SchemeKind.ofScheme scheme = .plain)
    (cs : List Char) : readAbsolute base scheme cs = readAbsolute none scheme cs := by
  simp only [readAbsolute, hplain]

theorem exists_of_splitScheme {rest : List Char} (h : splitScheme cs = some (scheme, rest)) :
    ∃ name, cs = name ++ ':' :: rest ∧ scheme.toList.length = name.length := by
  unfold splitScheme at h
  dsimp only at h
  split at h
  · rename_i hname hrest
    split at h
    · cases h
      refine ⟨cs.takeWhile isSchemeChar, ?_, ?_⟩
      · rw [← hrest, drop_takeWhile_length, List.takeWhile_append_dropWhile]
      · simp
    · cases h
  · cases h

theorem exists_text_of_hasAuthority {u : Url} (h : HasAuthority scheme u) :
    ∃ rest, u.text.toList = scheme.toList ++ ':' :: '/' :: '/' :: rest := by
  obtain ⟨rfl, hauthority⟩ := h
  obtain ⟨a, ha⟩ := Option.isSome_iff_exists.mp hauthority
  unfold text
  split <;> simp [textBeforeFragment, ha]

/-- A URL in normal form: its text is read as it stands, and as that URL. -/
structure Normal (u : Url) : Prop where
  trimmed : Trimmed u.text.toList
  parse : parse u.text = .ok u

/-- A URL in normal form is read at every base. -/
theorem Normal.read {u : Url} (h : u.Normal) (base : Option Url) :
    readSignificant base u.text.toList = .ok u := by
  have hread : readSignificant none u.text.toList = .ok u := by
    rw [← significant_eq_iff.mpr h.trimmed]
    exact h.parse
  cases hscheme : splitScheme u.text.toList with
  | none => simp [readSignificant, hscheme] at hread
  | some p =>
      obtain ⟨scheme, rest⟩ := p
      simp only [readSignificant, hscheme] at hread ⊢
      by_cases hplain : SchemeKind.ofScheme scheme = .plain
      · rwa [readAbsolute_plain base hplain]
      · -- The text has two slashes behind its scheme, because the URL has an authority.
        obtain ⟨more, hmore⟩ :=
          exists_text_of_hasAuthority (hasAuthority_of_readAbsolute hplain hread)
        obtain ⟨name, htext, hlength⟩ := exists_of_splitScheme hscheme
        rw [hmore] at htext
        obtain ⟨-, hrest⟩ := List.append_inj htext hlength
        cases hrest
        rwa [readAbsolute_slashes]

theorem Normal.text_ne_nil {u : Url} (h : u.Normal) : u.text.toList ≠ [] := by
  intro hnil
  have hread := h.read none
  rw [hnil] at hread
  cases hread

/-- The text of a URL without a fragment has no number sign. -/
theorem Normal.sharp_notMem {u : Url} (h : u.Normal) (hfragment : u.fragment = none) :
    '#' ∉ u.text.toList := by
  intro hmem
  obtain ⟨before, rest, htext, hbefore⟩ := List.eq_append_cons_of_mem hmem
  have hread := h.read none
  rw [htext] at hread
  by_cases hne : before = []
  · rw [hne, List.nil_append] at hread
    cases hread
  · have hextended := extended_readSignificant (.fragment rest) hbefore hne none
    have hsome := hextended.fragment_eq hread
    rw [hfragment] at hsome
    cases hsome

theorem getLast?_text_ne (scheme : String) :
    (text { scheme, authority := some {} }).toList.getLast? ≠ some '@' := by
  simp [text, textBeforeFragment, Authority.text]

/-- A fragment that needs no escapes is read as it stands. -/
theorem readFragment_of_plain {cs : List Char} (h : ∀ c ∈ cs, Percent.fragment c = false) :
    readFragment cs = String.ofList cs := by
  rw [readFragment, Percent.encode_eq_self h]

/-- A fragment behind the text of a URL is read as a fragment of that URL. -/
theorem Normal.join_fragment {u : Url} (h : u.Normal) (hfragment : u.fragment = none)
    {fragment : String} (hplain : ∀ c ∈ fragment.toList, Percent.fragment c = false) (base : Url) :
    base.join (u.text ++ "#" ++ fragment) = .ok { u with fragment := some fragment } := by
  have htext : (u.text ++ "#" ++ fragment).toList = u.text.toList ++ '#' :: fragment.toList := by
    simp
  have htrimmed := h.trimmed.append_fragment h.text_ne_nil
    fun c hc => (Percent.range_of_fragment (hplain c hc)).1
  rw [← htext, ← significant_eq_iff] at htrimmed
  have hextended := extended_readSignificant (.fragment fragment.toList)
    (h.sharp_notMem hfragment) h.text_ne_nil (some base)
  rw [← htext, ← htrimmed, h.read, ← read_eq] at hextended
  have hjoin : base.join (u.text ++ "#" ++ fragment) =
      Url.read (some base) (u.text ++ "#" ++ fragment) := rfl
  rw [hjoin]
  generalize Url.read (some base) (u.text ++ "#" ++ fragment) = result at hextended
  generalize hu : (Except.ok u : Reading Url) = x at hextended
  cases hextended with
  | same =>
      subst hu
      rw [Except.map, withTail, tailFragment, readFragment_of_plain hplain, String.ofList_toList]
  | lone hlast =>
      cases hu
      exact absurd hlast (getLast?_text_ne _)

/-! ## Queries -/

/-- A query that needs no escapes is read as it stands. -/
theorem readEnd_query {u : Url} {query : List Char}
    (hplain : ∀ c ∈ query, Percent.specialQuery c = false) :
    readEnd u ('?' :: query) = { u with query := some (String.ofList query) } := by
  have hsharp : '#' ∉ query := fun hmem => absurd (hplain _ hmem) (by decide)
  have hreserved : ∀ c ∈ query, (if (SchemeKind.ofScheme u.scheme).isSpecial
      then Percent.specialQuery else Percent.query) c = false := by
    split
    · exact hplain
    · exact fun c hc => (Bool.or_eq_false_iff.mp (hplain c hc)).1
  simp only [readEnd, takeWhile_ne_of_notMem hsharp, List.drop_length,
    Percent.encode_eq_self hreserved]

/-- A reference that is a query without escapes takes the place of the query of its base. -/
theorem join_query {base : Url} (hpath : base.isOpaque = false) (hfile : base.scheme ≠ "file")
    {query : String} (hplain : ∀ c ∈ query.toList, Percent.specialQuery c = false) :
    base.join ("?" ++ query) = .ok { base with query := some query, fragment := none } := by
  have htext : ("?" ++ query).toList = '?' :: query.toList := by simp
  have htrimmed : Trimmed ("?" ++ query).toList := by
    rw [htext]
    exact trimmed_of_forall (List.forall_mem_cons.mpr
      ⟨by decide, fun c hc => Percent.lt_of_query (Bool.or_eq_false_iff.mp (hplain c hc)).1⟩)
  have hscheme : splitScheme ('?' :: query.toList) = none := rfl
  rw [join, read_eq, significant_eq_iff.mpr htrimmed, htext,
    readSignificant_of_ne hscheme (by decide), hpath, if_neg (by decide), if_neg hfile]
  simp only [readRelative, readEnd_query hplain, String.ofList_toList]

end JsonSchema.Url
