import JsonSchema.Address.Ipv6

/-!
# The characters of addresses

Readers of addresses go on from character to character, and stop in front of any that no address
has. So what is read up to its end has no other characters.
-/

namespace JsonSchema.Address

/-- A character of IPv4 addresses. -/
def IsIpv4Char (c : Char) : Prop := isDigit c = true ∨ c = '.'

instance : DecidablePred IsIpv4Char := fun _ => inferInstanceAs (Decidable (_ ∨ _))

/-- A character of IPv6 addresses, which may end in an IPv4 address. -/
def IsIpv6Char (c : Char) : Prop := isHexDigit c = true ∨ c = ':' ∨ IsIpv4Char c

instance : DecidablePred IsIpv6Char := fun _ => inferInstanceAs (Decidable (_ ∨ _ ∨ _))

/-- A reader has gone on from one text to another, over characters of a kind. -/
def Passes (allowed : Char → Prop) (cs rest : List Char) : Prop :=
  ∃ passed, cs = passed ++ rest ∧ ∀ c ∈ passed, allowed c

section Passes

variable {allowed allowed' : Char → Prop} {cs ds rest : List Char}

theorem Passes.refl (cs : List Char) : Passes allowed cs cs := ⟨[], rfl, by simp⟩

theorem Passes.trans (h : Passes allowed cs ds) (h' : Passes allowed ds rest) :
    Passes allowed cs rest := by
  obtain ⟨front, rfl, hfront⟩ := h
  obtain ⟨back, rfl, hback⟩ := h'
  exact ⟨front ++ back, (List.append_assoc ..).symm, List.forall_mem_append.mpr ⟨hfront, hback⟩⟩

theorem Passes.mono (h : Passes allowed cs rest) (hallowed : ∀ c, allowed c → allowed' c) :
    Passes allowed' cs rest := by
  obtain ⟨passed, hcs, hpassed⟩ := h
  exact ⟨passed, hcs, fun c hc => hallowed c (hpassed c hc)⟩

theorem Passes.cons {c : Char} (hc : allowed c) (h : Passes allowed cs rest) :
    Passes allowed (c :: cs) rest := by
  obtain ⟨passed, rfl, hpassed⟩ := h
  exact ⟨c :: passed, rfl, List.forall_mem_cons.mpr ⟨hc, hpassed⟩⟩

theorem Passes.forall_mem (h : Passes allowed cs []) : ∀ c ∈ cs, allowed c := by
  obtain ⟨passed, rfl, hpassed⟩ := h
  rwa [List.append_nil]

/-- The characters at the front for which a test holds are passed. -/
theorem passes_takeWhile (p : Char → Bool) (cs : List Char) :
    Passes (p · = true) cs (cs.drop (cs.takeWhile p).length) := by
  have hcs := List.prefix_iff_eq_append.mp (List.takeWhile_prefix (l := cs) p)
  exact ⟨cs.takeWhile p, hcs.symm, List.all_eq_true.mp List.all_takeWhile⟩

end Passes

variable {cs rest : List Char}

/-! ## IPv4 -/

theorem passes_readOctet {n : Nat} (h : readOctet cs = some (n, rest)) :
    Passes IsIpv4Char cs rest := by
  simp only [readOctet] at h
  split at h
  · cases h
  · cases h
    exact (passes_takeWhile isDigit cs).mono fun _ => .inl

theorem passes_readOctets {count : Nat} {ns : List Nat}
    (h : readOctets count cs = some (ns, rest)) : Passes IsIpv4Char cs rest := by
  fun_induction readOctets count cs generalizing ns rest with
  | case1 =>
      cases h
      exact .refl _
  | case2 cs =>
      obtain ⟨⟨n, rest'⟩, hread, hrest⟩ := Option.map_eq_some_iff.mp h
      cases hrest
      exact passes_readOctet hread
  | case3 count cs ih =>
      obtain ⟨⟨n, rest'⟩, hread, h⟩ := Option.bind_eq_some_iff.mp h
      dsimp only at h
      split at h
      · rename_i rest''
        obtain ⟨⟨ns', rest'''⟩, hread', hrest⟩ := Option.bind_eq_some_iff.mp h
        cases hrest
        exact (passes_readOctet hread).trans (.cons (.inr rfl) (ih _ hread'))
      · cases h

theorem forall_mem_of_isIpv4 {s : String} (h : isIpv4 s = true) : ∀ c ∈ s.toList, IsIpv4Char c := by
  unfold isIpv4 at h
  split at h
  · rename_i hread
    exact (passes_readOctets hread).forall_mem
  · cases h

/-! ## IPv6 -/

theorem passes_readGroup (h : readGroup cs = some rest) : Passes IsIpv6Char cs rest := by
  simp only [readGroup] at h
  split at h
  · cases h
  · cases h
    exact (passes_takeWhile isHexDigit cs).mono fun _ => .inl

theorem passes_passSeparator {first : Bool} (h : passSeparator first cs = some rest) :
    Passes IsIpv6Char cs rest := by
  unfold passSeparator at h
  split at h
  · cases h
    exact .refl _
  · split at h
    · cases h
      exact .cons (.inr (.inl rfl)) (.refl _)
    · cases h

theorem passes_readGroups (limit left : Nat) (cs : List Char) :
    Passes IsIpv6Char cs (readGroups limit left cs).2.2 := by
  fun_induction readGroups limit left cs with
  | case1 => exact .refl _
  | case2 left cs i address rest haddress =>
      -- The last two groups are an IPv4 address.
      have hread : (passSeparator (i = 0) cs).bind
          (fun rest => (readIpv4 rest).map (·.2)) = some rest := by
        by_cases hleft : left = 0
        · simp [address, hleft] at haddress
        · simpa [address, hleft] using haddress
      obtain ⟨rest', hseparator, hread⟩ := Option.bind_eq_some_iff.mp hread
      obtain ⟨⟨ns, rest''⟩, hoctets, rfl⟩ := Option.map_eq_some_iff.mp hread
      exact (passes_passSeparator hseparator).trans
        ((passes_readOctets hoctets).mono fun _ hc => .inr (.inr hc))
  | case3 left cs i address haddress rest hgroup ih =>
      obtain ⟨rest', hseparator, hread⟩ := Option.bind_eq_some_iff.mp hgroup
      exact ((passes_passSeparator hseparator).trans (passes_readGroup hread)).trans ih
  | case4 => exact .refl _

theorem forall_mem_of_isIpv6 {s : String} (h : isIpv6 s = true) :
    ∀ c ∈ s.toList, IsIpv6Char c := by
  have hpasses := passes_readGroups 8 8 s.toList
  have hcolon : IsIpv6Char ':' := .inr (.inl rfl)
  unfold isIpv6 at h
  split at h
  · rename_i hread
    rw [hread, List.isEmpty_iff.mp h] at hpasses
    exact hpasses.forall_mem
  · cases h
  · rename_i head rest _ hread
    rw [hread] at hpasses
    have hrest := passes_readGroups (7 - head) (7 - head) rest
    rw [List.isEmpty_iff.mp h] at hrest
    exact (hpasses.trans (.cons hcolon (.cons hcolon hrest))).forall_mem
  · cases h

/-- An address has no at sign. -/
theorem at_notMem_of_address {s : String} (h : isIpv4 s = true ∨ isIpv6 s = true) :
    '@' ∉ s.toList := by
  intro hmem
  rcases h with h | h
  · exact absurd (forall_mem_of_isIpv4 h '@' hmem) (by decide)
  · exact absurd (forall_mem_of_isIpv6 h '@' hmem) (by decide)

end JsonSchema.Address
