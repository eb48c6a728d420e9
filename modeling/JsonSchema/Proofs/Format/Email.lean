import JsonSchema.Proofs.Address.Characters
import JsonSchema.Proofs.Format.Hostname
import Mathlib.Data.List.Basic
import Mathlib.Data.List.TakeWhile

/-!
# The grammar of mail addresses

Mail addresses are trees here, from the local part and the domain down to the single characters
between quotes, and every tree has one text. The texts of trees are the texts that are accepted, and
no two trees have the same text: a domain has no at sign, so the last one is where it begins.
-/

namespace JsonSchema.Format

variable {cs ds : List Char}

/-! ## Local parts -/

/-- An atom of a local part. -/
def IsAtom (cs : List Char) : Prop := cs ≠ [] ∧ ∀ c ∈ cs, isAtomChar c = true

/-- What stands between quotes: a character for itself, or any character behind a backslash. -/
inductive QuotedItem
  | plain (c : Char) (h : c ≠ '"' ∧ c ≠ '\\' ∧ isAsciiControl c = false)
  | escaped (c : Char)

/-- The text of an item between quotes. -/
def QuotedItem.text : QuotedItem → List Char
  | .plain c _ => [c]
  | .escaped c => ['\\', c]

/-- The part before the at sign. -/
inductive LocalPart
  | atoms (parts : Dotted IsAtom)
  | quoted (items : List QuotedItem)

/-- The text of a local part. -/
def LocalPart.text : LocalPart → List Char
  | .atoms parts => parts.text
  | .quoted items => '"' :: (items.flatMap QuotedItem.text ++ ['"'])

theorem inside?_eq_some_iff {first last : Char} {inner : List Char} :
    inside? first last cs = some inner ↔ cs = first :: (inner ++ [last]) := by
  cases cs with
  | nil => simp [inside?]
  | cons c rest =>
      rw [inside?]
      constructor
      · intro h
        split at h
        · rename_i hends
          obtain ⟨rfl, hlast⟩ := hends
          cases h
          rw [List.dropLast_append_getLast? _ hlast]
        · cases h
      · rintro ⟨⟩
        simp

theorem isQuotedContent_iff :
    isQuotedContent cs = true ↔ ∃ items : List QuotedItem, items.flatMap QuotedItem.text = cs := by
  constructor
  · intro h
    fun_induction isQuotedContent cs with
    | case1 => exact ⟨[], rfl⟩
    | case2 c rest ih =>
        obtain ⟨items, hitems⟩ := ih h
        exact ⟨.escaped c :: items, by rw [List.flatMap_cons, hitems]; rfl⟩
    | case3 c rest _ ih =>
        simp only [Bool.and_eq_true, decide_eq_true_eq, Bool.not_eq_true'] at h
        obtain ⟨⟨⟨hslash, hquote⟩, hcontrol⟩, hrest⟩ := h
        obtain ⟨items, hitems⟩ := ih hrest
        exact ⟨.plain c ⟨hquote, hslash, hcontrol⟩ :: items,
          by rw [List.flatMap_cons, hitems]; rfl⟩
  · rintro ⟨items, rfl⟩
    induction items with
    | nil => rfl
    | cons item items ih =>
        rw [List.flatMap_cons]
        cases item with
        | plain c h =>
            obtain ⟨hquote, hslash, hcontrol⟩ := h
            rw [QuotedItem.text, List.singleton_append, isQuotedContent]
            · simp [hquote, hslash, hcontrol, ih]
            · exact fun _ _ hc _ => hslash hc
        | escaped c => exact ih

theorem quotedItems_injective :
    Function.Injective fun items : List QuotedItem => items.flatMap QuotedItem.text := by
  intro items items' h
  induction items generalizing items' with
  | nil =>
      cases items' with
      | nil => rfl
      | cons item items' => cases item <;> simp [QuotedItem.text] at h
  | cons item items ih =>
      cases items' with
      | nil => cases item <;> simp [QuotedItem.text] at h
      | cons item' items' =>
          simp only [List.flatMap_cons] at h
          -- A plain item is not a backslash, so the first character tells which item it is.
          cases item with
          | plain c hc =>
              cases item' with
              | plain c' _ =>
                  obtain ⟨rfl, hrest⟩ := List.cons.inj h
                  rw [ih hrest]
              | escaped c' => exact absurd (List.cons.inj h).1 hc.2.1
          | escaped c =>
              cases item' with
              | plain c' hc' => exact absurd (List.cons.inj h).1.symm hc'.2.1
              | escaped c' =>
                  obtain ⟨rfl, hrest⟩ := List.cons.inj (List.cons.inj h).2
                  rw [ih hrest]

theorem IsAtom.dot_notMem (h : IsAtom cs) : '.' ∉ cs :=
  fun hmem => absurd (h.2 '.' hmem) (by decide)

/-- Atoms do not begin with a quote. -/
theorem atoms_text_ne (parts : Dotted IsAtom) : parts.text ≠ '"' :: cs := by
  intro h
  have hmem : '"' ∈ parts.text := h ▸ List.mem_cons_self
  rcases Dotted.of_mem_text hmem with hdot | ⟨atom, hatom, hmem⟩
  · cases hdot
  · exact absurd (hatom.2 '"' hmem) (by decide)

theorem LocalPart.text_injective : Function.Injective LocalPart.text := by
  intro p p' h
  cases p with
  | atoms parts =>
      cases p' with
      | atoms parts' =>
          have hparts : parts.text = parts'.text := h
          rw [Dotted.text_injective (fun _ => IsAtom.dot_notMem) hparts]
      | quoted items' => exact absurd h (atoms_text_ne parts)
  | quoted items =>
      cases p' with
      | atoms parts' => exact absurd h.symm (atoms_text_ne parts')
      | quoted items' =>
          simp only [text, List.cons.injEq, List.append_cancel_right_eq, true_and] at h
          rw [quotedItems_injective h]

/-- What is between quotes in the text of a local part is quoted content. -/
theorem exists_localPart_quoted_iff {content : List Char} :
    (∃ p : LocalPart, p.text = '"' :: (content ++ ['"'])) ↔ isQuotedContent content = true := by
  rw [isQuotedContent_iff]
  constructor
  · rintro ⟨p, hp⟩
    cases p with
    | atoms parts => exact absurd hp (atoms_text_ne parts)
    | quoted items =>
        rw [LocalPart.text, List.cons.injEq, List.append_cancel_right_eq] at hp
        exact ⟨items, hp.2⟩
  · rintro ⟨items, rfl⟩
    exact ⟨.quoted items, rfl⟩

/-- Local parts that are not between quotes are atoms. -/
theorem exists_localPart_atoms_iff (h : inside? '"' '"' cs = none) :
    (∃ p : LocalPart, p.text = cs) ↔ ∀ atom ∈ dotted cs, IsAtom atom := by
  rw [← Dotted.exists_text_eq_iff fun _ => IsAtom.dot_notMem]
  constructor
  · rintro ⟨p, hp⟩
    cases p with
    | atoms parts => exact ⟨parts, hp⟩
    | quoted items =>
        have hsome := inside?_eq_some_iff.mpr hp.symm
        rw [h] at hsome
        cases hsome
  · rintro ⟨parts, hparts⟩
    exact ⟨.atoms parts, hparts⟩

theorem isLocalPart_iff : isLocalPart cs = true ↔
    (∃ p : LocalPart, p.text = cs) ∧ 1 ≤ byteLength cs ∧ byteLength cs ≤ 64 := by
  rw [isLocalPart, Bool.and_eq_true, and_comm, byteLength_pos_iff]
  refine and_congr ?_ (by simp)
  cases hinside : inside? '"' '"' cs with
  | some content => rw [inside?_eq_some_iff.mp hinside, exists_localPart_quoted_iff]
  | none => rw [exists_localPart_atoms_iff hinside]; simp [IsAtom]

/-! ## Domains -/

/-- What stands in brackets: an IPv4 address, or an IPv6 address behind a tag. -/
inductive Literal
  | ipv4 (address : String) (h : Address.isIpv4 address = true)
  | ipv6 (address : String) (h : Address.isIpv6 address = true)

/-- The text between the brackets. -/
def Literal.text : Literal → List Char
  | .ipv4 address _ => address.toList
  | .ipv6 address _ => 'I' :: 'P' :: 'v' :: '6' :: ':' :: address.toList

/-- The part behind the at sign. -/
inductive MailDomain
  | literal (address : Literal)
  | host (name : HostName)

/-- The text of a domain. -/
def MailDomain.text : MailDomain → List Char
  | .literal address => '[' :: (address.text ++ [']'])
  | .host name => name.text

/-- The tag of IPv6 addresses does not begin an IPv4 address. -/
theorem toList_ne_of_isIpv4 {s : String} (h : Address.isIpv4 s = true) : s.toList ≠ 'I' :: cs :=
  fun hs => absurd (Address.forall_mem_of_isIpv4 h 'I' (hs ▸ List.mem_cons_self)) (by decide)

/-- A host name is not in brackets. -/
theorem HostName.text_ne (name : HostName) : name.text ≠ '[' :: cs :=
  fun h => absurd (name.isHostChar_of_mem (h ▸ List.mem_cons_self)) (by decide)

theorem Literal.text_injective : Function.Injective Literal.text := by
  intro a a' h
  cases a with
  | ipv4 s hs =>
      cases a' with
      | ipv4 s' _ => cases String.toList_inj.mp h; rfl
      | ipv6 s' _ => exact absurd h (toList_ne_of_isIpv4 hs)
  | ipv6 s _ =>
      cases a' with
      | ipv4 s' hs' => exact absurd h.symm (toList_ne_of_isIpv4 hs')
      | ipv6 s' _ =>
          simp only [text, List.cons.injEq, true_and] at h
          cases String.toList_inj.mp h
          rfl

theorem MailDomain.text_injective : Function.Injective MailDomain.text := by
  intro d d' h
  cases d with
  | literal address =>
      cases d' with
      | literal address' =>
          simp only [text, List.cons.injEq, List.append_cancel_right_eq, true_and] at h
          rw [Literal.text_injective h]
      | host name' => exact absurd h.symm name'.text_ne
  | host name =>
      cases d' with
      | literal address' => exact absurd h name.text_ne
      | host name' =>
          rw [HostName.text_injective (show name.text = name'.text from h)]

theorem exists_literal_ipv6_iff :
    (∃ a : Literal, a.text = 'I' :: 'P' :: 'v' :: '6' :: ':' :: cs) ↔
      Address.isIpv6 (String.ofList cs) = true := by
  constructor
  · rintro ⟨a, ha⟩
    cases a with
    | ipv4 s h => exact absurd ha (toList_ne_of_isIpv4 h)
    | ipv6 s h =>
        simp only [Literal.text, List.cons.injEq, true_and] at ha
        rwa [← ha, String.ofList_toList]
  · exact fun h => ⟨.ipv6 (String.ofList cs) h, by rw [Literal.text, String.toList_ofList]⟩

theorem exists_literal_ipv4_iff
    (htag : ∀ address, cs ≠ 'I' :: 'P' :: 'v' :: '6' :: ':' :: address) :
    (∃ a : Literal, a.text = cs) ↔ Address.isIpv4 (String.ofList cs) = true := by
  constructor
  · rintro ⟨a, rfl⟩
    cases a with
    | ipv4 s h => rwa [Literal.text, String.ofList_toList]
    | ipv6 s _ => exact absurd rfl (htag s.toList)
  · exact fun h => ⟨.ipv4 (String.ofList cs) h, by rw [Literal.text, String.toList_ofList]⟩

theorem exists_mailDomain_literal_iff :
    (∃ d : MailDomain, d.text = '[' :: (cs ++ [']'])) ↔ ∃ a : Literal, a.text = cs := by
  constructor
  · rintro ⟨d, hd⟩
    cases d with
    | literal a =>
        rw [MailDomain.text, List.cons.injEq, List.append_cancel_right_eq] at hd
        exact ⟨a, hd.2⟩
    | host name => exact absurd hd name.text_ne
  · rintro ⟨a, rfl⟩
    exact ⟨.literal a, rfl⟩

theorem exists_mailDomain_host_iff (h : inside? '[' ']' cs = none) :
    (∃ d : MailDomain, d.text = cs) ↔ ∃ name : HostName, name.text = cs := by
  constructor
  · rintro ⟨d, hd⟩
    cases d with
    | literal a =>
        have hsome := inside?_eq_some_iff.mpr hd.symm
        rw [h] at hsome
        cases hsome
    | host name => exact ⟨name, hd⟩
  · rintro ⟨name, hname⟩
    exact ⟨.host name, hname⟩

theorem isMailDomain_iff : isMailDomain cs = true ↔ ∃ d : MailDomain, d.text = cs := by
  unfold isMailDomain
  split
  · rename_i address hinside
    rw [inside?_eq_some_iff.mp hinside, exists_mailDomain_literal_iff, exists_literal_ipv6_iff]
  · rename_i content htag hinside
    rw [inside?_eq_some_iff.mp hinside, exists_mailDomain_literal_iff,
      exists_literal_ipv4_iff htag]
  · rename_i hinside
    rw [exists_mailDomain_host_iff hinside, isHostnameText_iff]

theorem Literal.at_notMem (a : Literal) : '@' ∉ a.text := by
  cases a with
  | ipv4 s h => exact Address.at_notMem_of_address (.inl h)
  | ipv6 s h => simpa [text] using Address.at_notMem_of_address (.inr h)

theorem MailDomain.at_notMem (d : MailDomain) : '@' ∉ d.text := by
  cases d with
  | literal a => simpa [text] using a.at_notMem
  | host name => exact fun hmem => absurd (name.isHostChar_of_mem hmem) (by decide)

/-! ## Addresses -/

/-- Going back over a text without at sign ends at its beginning. -/
theorem forall_reverse_of_at_notMem (h : '@' ∉ cs) :
    ∀ c ∈ cs.reverse, decide (c ≠ '@') = true := by
  intro c hc
  rw [decide_eq_true_eq]
  rintro rfl
  exact h (List.mem_reverse.mp hc)

theorem splitAtSign?_append (h : '@' ∉ ds) : splitAtSign? (cs ++ '@' :: ds) = some (cs, ds) := by
  have hdomain : ((cs ++ '@' :: ds).reverse.takeWhile (· ≠ '@')).reverse = ds := by
    rw [List.reverse_append, List.reverse_cons, List.append_assoc,
      List.takeWhile_append_of_pos (forall_reverse_of_at_notMem h)]
    simp
  have hlength : (cs ++ '@' :: ds).length = cs.length + 1 + ds.length := by
    rw [List.length_append, List.length_cons]
    omega
  have hcs : cs.length + 1 + ds.length - ds.length - 1 = cs.length := by omega
  simp only [splitAtSign?, hdomain, hlength, hcs, List.take_left]
  rw [if_neg (by omega)]

theorem splitAtSign?_eq_none (h : '@' ∉ cs) : splitAtSign? cs = none := by
  have hdomain := List.takeWhile_eq_self_iff.mpr (forall_reverse_of_at_notMem h)
  simp only [splitAtSign?, hdomain, List.reverse_reverse, if_true]

/-- A text is split where an at sign is, and no other one behind it. -/
theorem splitAtSign?_eq_some_iff {front back : List Char} :
    splitAtSign? cs = some (front, back) ↔ cs = front ++ '@' :: back ∧ '@' ∉ back := by
  constructor
  · intro h
    by_cases hat : '@' ∈ cs
    · obtain ⟨behind, before, hcs, hbehind⟩ :=
        List.eq_append_cons_of_mem (List.mem_reverse.mpr hat)
      have hcs : cs = before.reverse ++ '@' :: behind.reverse := by
        rw [← cs.reverse_reverse, hcs]
        simp
      have hback : '@' ∉ behind.reverse := fun hmem => hbehind (List.mem_reverse.mp hmem)
      rw [hcs, splitAtSign?_append hback] at h
      cases h
      exact ⟨hcs, hback⟩
    · rw [splitAtSign?_eq_none hat] at h
      cases h
  · rintro ⟨rfl, hback⟩
    exact splitAtSign?_append hback

/-- A mail address. -/
structure MailAddress where
  localPart : LocalPart
  domain : MailDomain
  bytes : 1 ≤ byteLength localPart.text ∧ byteLength localPart.text ≤ 64

/-- The text of a mail address. -/
def MailAddress.text (a : MailAddress) : List Char := a.localPart.text ++ '@' :: a.domain.text

theorem MailAddress.text_injective : Function.Injective text := by
  intro a a' h
  have hsplit : splitAtSign? a'.text = some (a.localPart.text, a.domain.text) := by
    rw [← h]
    exact splitAtSign?_append a.domain.at_notMem
  rw [text, splitAtSign?_append a'.domain.at_notMem, Option.some_inj, Prod.mk.injEq] at hsplit
  have hlocal := LocalPart.text_injective hsplit.1.symm
  have hdomain := MailDomain.text_injective hsplit.2.symm
  cases a
  cases a'
  cases hlocal
  cases hdomain
  rfl

theorem isEmail_iff (s : String) : isEmail s = true ↔ ∃ a : MailAddress, a.text = s.toList := by
  unfold isEmail
  constructor
  · intro h
    split at h
    · rename_i front back hsplit
      obtain ⟨hs, -⟩ := splitAtSign?_eq_some_iff.mp hsplit
      obtain ⟨hlocal, hdomain⟩ := Bool.and_eq_true_iff.mp h
      obtain ⟨⟨p, rfl⟩, hbytes⟩ := isLocalPart_iff.mp hlocal
      obtain ⟨d, rfl⟩ := isMailDomain_iff.mp hdomain
      exact ⟨⟨p, d, hbytes⟩, hs.symm⟩
    · cases h
  · rintro ⟨a, ha⟩
    rw [← ha, MailAddress.text, splitAtSign?_append a.domain.at_notMem]
    exact Bool.and_eq_true_iff.mpr
      ⟨isLocalPart_iff.mpr ⟨⟨a.localPart, rfl⟩, a.bytes⟩, isMailDomain_iff.mpr ⟨a.domain, rfl⟩⟩

/-- A text is accepted if it is the text of a mail address, and then of one address only. -/
theorem isEmail_unambiguous :
    (∀ s, isEmail s = true ↔ ∃ a : MailAddress, a.text = s.toList) ∧
      Function.Injective MailAddress.text :=
  ⟨isEmail_iff, MailAddress.text_injective⟩

/-- The last at sign is where the domain begins, also when there is one between quotes. -/
example : isEmail "\"@\\\"\"@b" = true := by decide

end JsonSchema.Format
