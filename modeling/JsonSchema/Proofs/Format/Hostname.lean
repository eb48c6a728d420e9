import JsonSchema.Format.Email
import Mathlib.Order.Basic

/-!
# The grammar of host names

A text with full stops is read in one way only: what stands between them are its parts, provided
that no part has a full stop itself. Host names have labels for parts, and their characters are all
of one byte.
-/

namespace JsonSchema.Format

variable {cs ds : List Char}

/-! ## Full stops between parts -/

theorem dotted_eq_splitOn (cs : List Char) : dotted cs = cs.splitOn '.' := by
  fun_induction dotted cs with
  | case1 => exact (List.splitOn_nil '.').symm
  | case2 rest ih => rw [ih, List.splitOn, List.splitOn, List.splitOnP_cons_eq_if_modifyHead]; rfl
  | case3 c rest hc hnil ih => exact absurd (ih.symm.trans hnil) (List.splitOn_ne_nil '.' rest)
  | case4 c rest hc p ps hcons ih =>
      have hne : (c == '.') = false := beq_eq_false_iff_ne.mpr hc
      rw [hcons, List.splitOn] at ih
      rw [List.splitOn, List.splitOnP_cons_eq_if_modifyHead, ← ih, hne]
      rfl

/-- Parts of a kind, at least one, with full stops between them. -/
structure Dotted (IsPart : List Char → Prop) where
  parts : List (List Char)
  ne_nil : parts ≠ []
  isPart : ∀ p ∈ parts, IsPart p

namespace Dotted

variable {IsPart : List Char → Prop}

/-- The text of parts with full stops between them. -/
def text (d : Dotted IsPart) : List Char := ['.'].intercalate d.parts

theorem dotted_text (hdot : ∀ p, IsPart p → '.' ∉ p) (d : Dotted IsPart) :
    dotted d.text = d.parts := by
  rw [dotted_eq_splitOn, text]
  exact List.splitOn_intercalate '.' (fun p hp => hdot p (d.isPart p hp)) d.ne_nil

theorem text_injective (hdot : ∀ p, IsPart p → '.' ∉ p) :
    Function.Injective (text : Dotted IsPart → List Char) := by
  intro d d' h
  have hparts : d.parts = d'.parts := by rw [← d.dotted_text hdot, h, d'.dotted_text hdot]
  cases d
  cases d'
  cases hparts
  rfl

/-- The texts of such parts are those of which all stretches between the full stops are parts. -/
theorem exists_text_eq_iff (hdot : ∀ p, IsPart p → '.' ∉ p) :
    (∃ d : Dotted IsPart, d.text = cs) ↔ ∀ p ∈ dotted cs, IsPart p := by
  constructor
  · rintro ⟨d, rfl⟩
    rw [d.dotted_text hdot]
    exact d.isPart
  · intro h
    rw [dotted_eq_splitOn] at h
    exact ⟨⟨cs.splitOn '.', List.splitOn_ne_nil '.' cs, h⟩, List.intercalate_splitOn '.'⟩

theorem mem_intercalate {c : Char} {ps : List (List Char)} (h : c ∈ ['.'].intercalate ps) :
    c = '.' ∨ ∃ p ∈ ps, c ∈ p := by
  induction ps with
  | nil => simp at h
  | cons p ps ih =>
      cases ps with
      | nil => exact .inr ⟨p, List.mem_cons_self, by simpa using h⟩
      | cons q qs =>
          rw [List.intercalate_cons_cons, List.mem_append, List.mem_append,
            List.mem_singleton] at h
          rcases h with (h | h) | h
          · exact .inr ⟨p, List.mem_cons_self, h⟩
          · exact .inl h
          · exact (ih h).imp_right fun ⟨p', hmem, hc⟩ => ⟨p', List.mem_cons_of_mem p hmem, hc⟩

/-- A text of such parts has no characters but those of parts, and full stops. -/
theorem of_mem_text {d : Dotted IsPart} {c : Char} (h : c ∈ d.text) :
    c = '.' ∨ ∃ p, IsPart p ∧ c ∈ p :=
  (mem_intercalate h).imp_right fun ⟨p, hp, hc⟩ => ⟨p, d.isPart p hp, hc⟩

theorem text_ne_nil (hne : ∀ p, IsPart p → p ≠ []) (d : Dotted IsPart) : d.text ≠ [] := by
  obtain ⟨parts, hparts, hall⟩ := d
  obtain ⟨p, ps, rfl⟩ := List.exists_cons_of_ne_nil hparts
  have hp : p ≠ [] := hne p (hall p List.mem_cons_self)
  cases ps with
  | nil => simpa [text] using hp
  | cons q qs => simp [text, List.intercalate_cons_cons]

end Dotted

/-! ## Lengths in bytes -/

theorem byteLength_pos_iff : 1 ≤ byteLength cs ↔ cs ≠ [] := by
  cases cs with
  | nil => simp [byteLength]
  | cons c cs =>
      have hc := c.utf8Size_pos
      rw [byteLength, List.foldr_cons]
      simp only [ne_eq, reduceCtorEq, not_false_eq_true, iff_true]
      omega

theorem byteLength_eq_length (h : ∀ c ∈ cs, c.val ≤ 127) : byteLength cs = cs.length := by
  induction cs with
  | nil => rfl
  | cons c cs ih =>
      obtain ⟨hc, hcs⟩ := List.forall_mem_cons.mp h
      rw [byteLength, List.foldr_cons, ← byteLength, ih hcs, Char.utf8Size_eq_one_iff.mpr hc,
        List.length_cons, Nat.add_comm]

/-! ## Host names -/

/-- A label of a host name. -/
structure IsHostLabel (cs : List Char) : Prop where
  length : 1 ≤ cs.length ∧ cs.length ≤ 63
  chars : ∀ c ∈ cs, isAlphanumeric c = true ∨ c = '-'
  first : cs.head? ≠ some '-'
  last : cs.getLast? ≠ some '-'

theorem isLabel_iff : isLabel cs = true ↔ IsHostLabel cs := by
  simp only [isLabel, Bool.and_eq_true, Bool.not_eq_true', List.isEmpty_eq_false_iff,
    decide_eq_true_eq, bne_iff_ne, List.all_eq_true, Bool.or_eq_true]
  constructor
  · rintro ⟨⟨⟨⟨hne, hle⟩, hfirst⟩, hlast⟩, hchars⟩
    exact ⟨⟨List.length_pos_iff.mpr hne, hle⟩, hchars, hfirst, hlast⟩
  · rintro ⟨⟨hpos, hle⟩, hchars, hfirst, hlast⟩
    exact ⟨⟨⟨⟨List.length_pos_iff.mp hpos, hle⟩, hfirst⟩, hlast⟩, hchars⟩

theorem IsHostLabel.ne_nil (h : IsHostLabel cs) : cs ≠ [] := List.length_pos_iff.mp h.length.1

/-- A character of host names. -/
def IsHostChar (c : Char) : Prop := c = '.' ∨ isAlphanumeric c = true ∨ c = '-'

instance : DecidablePred IsHostChar := fun _ => inferInstanceAs (Decidable (_ ∨ _ ∨ _))

theorem IsHostLabel.dot_notMem (h : IsHostLabel cs) : '.' ∉ cs :=
  fun hmem => absurd (h.chars '.' hmem) (by decide)

theorem Dotted.isHostChar_of_mem {name : Dotted IsHostLabel} {c : Char} (h : c ∈ name.text) :
    IsHostChar c :=
  (Dotted.of_mem_text h).imp_right fun ⟨_, hlabel, hc⟩ => hlabel.chars c hc

theorem IsHostChar.val_le {c : Char} (h : IsHostChar c) : c.val ≤ 127 := by
  rcases h with rfl | h | rfl
  · decide
  · simp only [isAlphanumeric, Char.le_def, Bool.or_eq_true, Bool.and_eq_true,
      decide_eq_true_eq] at h
    have hdigit : ('9' : Char).val ≤ 127 := by decide
    have hlower : ('z' : Char).val ≤ 127 := by decide
    have hupper : ('Z' : Char).val ≤ 127 := by decide
    rcases h with (⟨-, h⟩ | ⟨-, h⟩) | ⟨-, h⟩
    · exact UInt32.le_trans h hdigit
    · exact UInt32.le_trans h hlower
    · exact UInt32.le_trans h hupper
  · decide

/-- A host name of the right length: labels with full stops between them. -/
structure HostName where
  labels : Dotted IsHostLabel
  bytes : 1 ≤ byteLength labels.text ∧ byteLength labels.text ≤ 253

/-- The text of a host name. -/
def HostName.text (name : HostName) : List Char := name.labels.text

theorem HostName.text_injective : Function.Injective HostName.text := by
  intro name name' h
  have hlabels : name.labels = name'.labels :=
    Dotted.text_injective (fun _ => IsHostLabel.dot_notMem) h
  cases name
  cases name'
  cases hlabels
  rfl

theorem HostName.isHostChar_of_mem {name : HostName} {c : Char} (h : c ∈ name.text) :
    IsHostChar c :=
  Dotted.isHostChar_of_mem h

theorem HostName.text_ne_nil (name : HostName) : name.text ≠ [] :=
  name.labels.text_ne_nil fun _ => IsHostLabel.ne_nil

/-- The texts of host names are accepted, and no others. Characters are counted, but they are of
one byte each. -/
theorem isHostnameText_iff : isHostnameText cs = true ↔ ∃ name : HostName, name.text = cs := by
  have hbytes (labels : Dotted IsHostLabel) : byteLength labels.text = labels.text.length :=
    byteLength_eq_length fun c hc => (Dotted.isHostChar_of_mem hc).val_le
  have hlabels : (∃ labels : Dotted IsHostLabel, labels.text = cs) ↔
      ∀ label ∈ dotted cs, IsHostLabel label :=
    Dotted.exists_text_eq_iff fun _ => IsHostLabel.dot_notMem
  simp only [isHostnameText, Bool.and_eq_true, Bool.not_eq_true', List.isEmpty_eq_false_iff,
    decide_eq_true_eq, List.all_eq_true, isLabel_iff, ← hlabels]
  constructor
  · rintro ⟨⟨hne, hle⟩, labels, rfl⟩
    exact ⟨⟨labels, byteLength_pos_iff.mpr hne, (hbytes labels).trans_le hle⟩, rfl⟩
  · rintro ⟨name, rfl⟩
    exact ⟨⟨name.text_ne_nil, (hbytes name.labels).symm.trans_le name.bytes.2⟩, name.labels, rfl⟩

end JsonSchema.Format
