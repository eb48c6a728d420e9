import JsonSchema.Format.Duration
import JsonSchema.Text.Digits
import Mathlib.Data.List.Nodup

/-!
# The grammar of durations

Components are passed one unit after the other, each as far as it goes, and nothing has to be tried
twice: the letter behind the digits says which component it is. What is accepted is the grammar of
ISO 8601, but with the digits of all scripts in the place of those of ASCII.
-/

namespace JsonSchema.Format

/-! ## The grammar -/

/-- A component: digits and the letter of its unit. -/
inductive IsComponent (digit : Char → Bool) (unit : Char) : List Char → Prop
  | intro {ds : List Char} (hne : ds ≠ []) (hdigits : ∀ d ∈ ds, digit d = true) :
      IsComponent digit unit (ds ++ [unit])

/-- Components with given units in their order, each of which may be absent. -/
inductive AreComponents (digit : Char → Bool) : List Char → List Char → Prop
  | nil : AreComponents digit [] []
  | absent {unit units cs} (h : AreComponents digit units cs) :
      AreComponents digit (unit :: units) cs
  | present {unit units component rest} (hcomponent : IsComponent digit unit component)
      (h : AreComponents digit units rest) :
      AreComponents digit (unit :: units) (component ++ rest)

/-- The units of the date part. -/
def dateUnits : List Char := ['Y', 'M', 'D']

/-- The units of the time part. -/
def timeUnits : List Char := ['H', 'M', 'S']

/-- A duration over given digits: weeks, or components of a date and then perhaps of a time. One
component is there, and one behind a `T`. -/
inductive IsDuration (digit : Char → Bool) : List Char → Prop
  | weeks {cs} (h : IsComponent digit 'W' cs) : IsDuration digit ('P' :: cs)
  | date {cs} (h : AreComponents digit dateUnits cs) (hne : cs ≠ []) : IsDuration digit ('P' :: cs)
  | time {date time} (hdate : AreComponents digit dateUnits date)
      (htime : AreComponents digit timeUnits time) (hne : time ≠ []) :
      IsDuration digit ('P' :: (date ++ 'T' :: time))

section Digits

variable {digit digit' : Char → Bool} {unit : Char} {units cs : List Char}

/-! ## Characters of a duration -/

theorem IsComponent.digit_or_eq (h : IsComponent digit unit cs) :
    ∀ c ∈ cs, digit c = true ∨ c = unit := by
  obtain ⟨-, hdigits⟩ := h
  intro c hc
  rcases List.mem_append.mp hc with hc | hc
  · exact .inl (hdigits c hc)
  · exact .inr (List.mem_singleton.mp hc)

theorem AreComponents.digit_or_mem (h : AreComponents digit units cs) :
    ∀ c ∈ cs, digit c = true ∨ c ∈ units := by
  induction h with
  | nil => simp
  | absent _ ih => exact fun c hc => (ih c hc).imp_right (List.mem_cons_of_mem _)
  | present hcomponent _ ih =>
      intro c hc
      rcases List.mem_append.mp hc with hc | hc
      · exact (hcomponent.digit_or_eq c hc).imp_right (List.mem_cons.mpr ∘ .inl)
      · exact (ih c hc).imp_right (List.mem_cons_of_mem _)

/-- The letters of a duration. -/
def durationLetters : List Char := ['P', 'W', 'T'] ++ dateUnits ++ timeUnits

theorem dateUnits_subset : dateUnits ⊆ durationLetters := by decide

theorem timeUnits_subset : timeUnits ⊆ durationLetters := by decide

/-- A duration has no characters but digits and a few letters. -/
theorem IsDuration.digit_or_mem (h : IsDuration digit cs) :
    ∀ c ∈ cs, digit c = true ∨ c ∈ durationLetters := by
  have hletters {units : List Char} (hunits : units ⊆ durationLetters) {cs : List Char}
      (h : AreComponents digit units cs) (c : Char) (hc : c ∈ cs) :
      digit c = true ∨ c ∈ durationLetters :=
    (h.digit_or_mem c hc).imp_right fun hc => hunits hc
  cases h with
  | weeks h =>
      refine List.forall_mem_cons.mpr ⟨.inr (by decide), fun c hc => ?_⟩
      exact (h.digit_or_eq c hc).imp_right (by rintro rfl; decide)
  | date h => exact List.forall_mem_cons.mpr ⟨.inr (by decide), hletters dateUnits_subset h⟩
  | time hdate htime =>
      refine List.forall_mem_cons.mpr ⟨.inr (by decide), List.forall_mem_append.mpr
        ⟨hletters dateUnits_subset hdate, List.forall_mem_cons.mpr ⟨.inr (by decide), ?_⟩⟩⟩
      exact hletters timeUnits_subset htime

/-! ## Other digits -/

theorem IsComponent.of_digits (h : IsComponent digit unit cs)
    (hdigits : ∀ c ∈ cs, digit c = true → digit' c = true) : IsComponent digit' unit cs := by
  obtain ⟨hne, hcs⟩ := h
  exact ⟨hne, fun d hd => hdigits d (List.mem_append_left _ hd) (hcs d hd)⟩

theorem AreComponents.of_digits (h : AreComponents digit units cs)
    (hdigits : ∀ c ∈ cs, digit c = true → digit' c = true) : AreComponents digit' units cs := by
  induction h with
  | nil => exact .nil
  | absent _ ih => exact .absent (ih hdigits)
  | present hcomponent _ ih =>
      obtain ⟨hfront, hrest⟩ := List.forall_mem_append.mp hdigits
      exact .present (hcomponent.of_digits hfront) (ih hrest)

/-- A duration stays one if its digits count as digits in another way. -/
theorem IsDuration.of_digits (h : IsDuration digit cs)
    (hdigits : ∀ c ∈ cs, digit c = true → digit' c = true) : IsDuration digit' cs := by
  cases h with
  | weeks h => exact .weeks (h.of_digits (List.forall_mem_cons.mp hdigits).2)
  | date h hne => exact .date (h.of_digits (List.forall_mem_cons.mp hdigits).2) hne
  | time hdate htime hne =>
      obtain ⟨hdate', htime'⟩ := List.forall_mem_append.mp (List.forall_mem_cons.mp hdigits).2
      exact .time (hdate.of_digits hdate') (htime.of_digits (List.forall_mem_cons.mp htime').2) hne

/-! ## Ends of components -/

/-- Components end in a unit. -/
theorem AreComponents.exists_getLast (h : AreComponents digit units cs) (hne : cs ≠ []) :
    ∃ unit ∈ units, cs.getLast? = some unit := by
  induction h with
  | nil => exact absurd rfl hne
  | absent _ ih =>
      obtain ⟨unit, hmem, hlast⟩ := ih hne
      exact ⟨unit, List.mem_cons_of_mem _ hmem, hlast⟩
  | @present unit units component rest hcomponent _ ih =>
      by_cases hrest : rest = []
      · subst hrest
        obtain ⟨-, -⟩ := hcomponent
        exact ⟨unit, List.mem_cons_self, by simp⟩
      · obtain ⟨unit', hmem, hlast⟩ := ih hrest
        exact ⟨unit', List.mem_cons_of_mem _ hmem, by rw [List.getLast?_append, hlast]; rfl⟩

/-- Components that are there begin with digits and a unit. -/
theorem AreComponents.exists_head (h : AreComponents digit units cs) (hne : cs ≠ []) :
    ∃ ds unit rest, cs = ds ++ unit :: rest ∧ (∀ d ∈ ds, digit d = true) ∧ unit ∈ units := by
  induction h with
  | nil => exact absurd rfl hne
  | absent _ ih =>
      obtain ⟨ds, unit, rest, hcs, hdigits, hmem⟩ := ih hne
      exact ⟨ds, unit, rest, hcs, hdigits, List.mem_cons_of_mem _ hmem⟩
  | @present unit units component rest hcomponent _ _ =>
      obtain ⟨-, hdigits⟩ := hcomponent
      exact ⟨_, unit, rest, by simp, hdigits, List.mem_cons_self⟩

end Digits

/-! ## Passing components -/

variable {unit : Char} {units cs ds rest : List Char}

theorem dropWhile_digits (hdigits : ∀ d ∈ ds, isDurationDigit d = true)
    (hunit : isDurationDigit unit = false) :
    (ds ++ unit :: rest).dropWhile isDurationDigit = unit :: rest := by
  rw [List.dropWhile_append_of_pos hdigits, List.dropWhile_cons_of_neg (by simp [hunit])]

theorem passComponent?_append (hne : ds ≠ []) (hdigits : ∀ d ∈ ds, isDurationDigit d = true)
    (hunit : isDurationDigit unit = false) :
    passComponent? unit (ds ++ unit :: rest) = some rest := by
  have hlength : 0 < ds.length := List.length_pos_of_ne_nil hne
  rw [passComponent?, dropWhile_digits hdigits hunit]
  refine if_pos ⟨rfl, ?_⟩
  rw [List.length_append, List.length_cons]
  omega

/-- The component of another unit is not passed. -/
theorem passComponent?_other {unit' : Char} (hdigits : ∀ d ∈ ds, isDurationDigit d = true)
    (hunit' : isDurationDigit unit' = false) (hne : unit' ≠ unit) :
    passComponent? unit (ds ++ unit' :: rest) = none := by
  rw [passComponent?, dropWhile_digits hdigits hunit']
  exact if_neg fun h => hne h.1

/-- Nothing is passed where no digit stands. -/
theorem passComponent?_of_head (h : ∀ c ∈ rest.head?, isDurationDigit c = false) :
    passComponent? unit rest = none := by
  cases rest with
  | nil => rfl
  | cons c rest =>
      have hc : isDurationDigit c = false := h c rfl
      rw [passComponent?, List.dropWhile_cons_of_neg (by simp [hc])]
      exact if_neg fun h => by simp at h

theorem exists_of_passComponent? (h : passComponent? unit cs = some rest) :
    ∃ component, IsComponent isDurationDigit unit component ∧ cs = component ++ rest := by
  have hcs := List.takeWhile_append_dropWhile (p := isDurationDigit) (l := cs)
  have hdigits : ∀ d ∈ cs.takeWhile isDurationDigit, isDurationDigit d = true :=
    List.all_eq_true.mp List.all_takeWhile
  rw [passComponent?] at h
  split at h
  · rename_i c rest' hdrop
    rw [hdrop] at hcs
    split at h
    · rename_i hpassed
      obtain ⟨rfl, hlength⟩ := hpassed
      cases h
      refine ⟨_, ⟨fun hnil => ?_, hdigits⟩, ?_⟩
      · -- Without a digit nothing has become shorter.
        rw [hnil, List.nil_append] at hcs
        rw [← hcs, List.length_cons] at hlength
        omega
      · rw [List.append_assoc]
        exact hcs.symm
    · cases h
  · cases h

/-- What is passed are components. -/
theorem exists_of_passComponents (units cs : List Char) :
    ∃ front, AreComponents isDurationDigit units front ∧
      cs = front ++ passComponents units cs := by
  induction units generalizing cs with
  | nil => exact ⟨[], .nil, rfl⟩
  | cons unit units ih =>
      obtain ⟨front, hfront, hcs⟩ := ih (passComponent unit cs)
      change _ = front ++ passComponents (unit :: units) cs at hcs
      cases h : passComponent? unit cs with
      | none =>
          rw [passComponent, h, Option.getD_none] at hcs
          exact ⟨front, .absent hfront, hcs⟩
      | some rest =>
          rw [passComponent, h, Option.getD_some] at hcs
          obtain ⟨component, hcomponent, happend⟩ := exists_of_passComponent? h
          exact ⟨component ++ front, .present hcomponent hfront,
            by rw [List.append_assoc, ← hcs, happend]⟩

/-- Components are passed in front of anything that does not begin with a digit. -/
theorem passComponents_append {front : List Char}
    (h : AreComponents isDurationDigit units front) (hunits : units.Nodup)
    (hletters : ∀ unit ∈ units, isDurationDigit unit = false)
    (hrest : ∀ c ∈ rest.head?, isDurationDigit c = false) :
    passComponents units (front ++ rest) = rest := by
  induction h with
  | nil => rfl
  | @absent unit units cs h ih =>
      obtain ⟨hunit, hunits⟩ := List.nodup_cons.mp hunits
      obtain ⟨-, hletters⟩ := List.forall_mem_cons.mp hletters
      have hpass : passComponent? unit (cs ++ rest) = none := by
        by_cases hcs : cs = []
        · rw [hcs, List.nil_append]
          exact passComponent?_of_head hrest
        · obtain ⟨ds, unit', tail, rfl, hdigits, hmem⟩ := h.exists_head hcs
          rw [List.append_assoc, List.cons_append]
          exact passComponent?_other hdigits (hletters unit' hmem) fun heq => hunit (heq ▸ hmem)
      change passComponents units (passComponent unit (cs ++ rest)) = rest
      rw [passComponent, hpass, Option.getD_none]
      exact ih hunits hletters
  | @present unit units component cs hcomponent _ ih =>
      obtain ⟨-, hunits⟩ := List.nodup_cons.mp hunits
      obtain ⟨hunit, hletters⟩ := List.forall_mem_cons.mp hletters
      obtain ⟨hne, hdigits⟩ := hcomponent
      change passComponents units (passComponent unit _) = rest
      rw [List.append_assoc, List.append_assoc, List.singleton_append, passComponent,
        passComponent?_append hne hdigits hunit, Option.getD_some]
      exact ih hunits hletters

/-! ## Durations -/

theorem letters_not_digits : ∀ c ∈ durationLetters, isDurationDigit c = false := by
  have hall : (durationLetters.all fun c => !isDurationDigit c) = true := by decide +kernel
  exact fun c hc => (Bool.not_eq_true' _).mp (List.all_eq_true.mp hall c hc)

theorem passComponents_dateUnits {front : List Char}
    (h : AreComponents isDurationDigit dateUnits front)
    (hrest : ∀ c ∈ rest.head?, isDurationDigit c = false) :
    passComponents dateUnits (front ++ rest) = rest :=
  passComponents_append h (by decide)
    (fun unit hunit => letters_not_digits unit (dateUnits_subset hunit)) hrest

theorem passComponents_timeUnits {time : List Char}
    (h : AreComponents isDurationDigit timeUnits time) : passComponents timeUnits time = [] := by
  have hpass : passComponents timeUnits (time ++ []) = [] :=
    passComponents_append h (by decide)
      (fun unit hunit => letters_not_digits unit (timeUnits_subset hunit)) (by simp)
  rwa [List.append_nil] at hpass

/-- Nothing but components of a date is left, and then perhaps a time part, which may be empty. -/
theorem isDateAndTimePart_iff : isDateAndTimePart cs = true ↔
    AreComponents isDurationDigit dateUnits cs ∨ ∃ date time, cs = date ++ 'T' :: time ∧
      AreComponents isDurationDigit dateUnits date ∧
      AreComponents isDurationDigit timeUnits time := by
  constructor
  · intro h
    obtain ⟨date, hdate, hcs⟩ := exists_of_passComponents ['Y', 'M', 'D'] cs
    unfold isDateAndTimePart at h
    split at h
    · rename_i hpass
      rw [hpass, List.append_nil] at hcs
      exact .inl (hcs ▸ hdate)
    · rename_i time hpass
      obtain ⟨components, htime, happend⟩ := exists_of_passComponents ['H', 'M', 'S'] time
      rw [List.isEmpty_iff.mp h, List.append_nil] at happend
      exact .inr ⟨date, time, by rw [← hpass, ← hcs], hdate, happend ▸ htime⟩
    · cases h
  · rintro (h | ⟨date, time, rfl, hdate, htime⟩)
    · have hpass : passComponents dateUnits (cs ++ []) = [] := passComponents_dateUnits h (by simp)
      rw [List.append_nil] at hpass
      change passComponents ['Y', 'M', 'D'] cs = [] at hpass
      rw [isDateAndTimePart, hpass]
    · have hpass : passComponents dateUnits (date ++ 'T' :: time) = 'T' :: time := by
        refine passComponents_dateUnits hdate fun c hc => ?_
        obtain rfl : 'T' = c := by simpa using hc
        exact letters_not_digits 'T' (by decide)
      change passComponents ['Y', 'M', 'D'] _ = _ at hpass
      rw [isDateAndTimePart, hpass]
      exact List.isEmpty_iff.mpr (passComponents_timeUnits htime)

theorem passComponent?_eq_nil_iff (hunit : isDurationDigit unit = false) :
    passComponent? unit cs = some [] ↔ IsComponent isDurationDigit unit cs := by
  constructor
  · intro h
    obtain ⟨component, hcomponent, rfl⟩ := exists_of_passComponent? h
    rwa [List.append_nil]
  · rintro ⟨hne, hdigits⟩
    exact passComponent?_append hne hdigits hunit

/-- The units that are not `T` end a text. -/
theorem getLast?_ne_of_components (h : AreComponents isDurationDigit units cs)
    (hunits : 'T' ∉ units) : cs.getLast? ≠ some 'T' := by
  by_cases hne : cs = []
  · simp [hne]
  · obtain ⟨unit, hmem, hlast⟩ := h.exists_getLast hne
    rw [hlast]
    rintro ⟨⟩
    exact hunits hmem

/-- The two guards leave out just the durations without a component, and those with none behind
the `T`. -/
theorem isDuration_iff_grammar (s : String) :
    isDuration s = true ↔ IsDuration isDurationDigit s.toList := by
  have hweek : isDurationDigit 'W' = false := letters_not_digits 'W' (by decide)
  unfold isDuration
  generalize s.toList = text
  constructor
  · intro h
    split at h
    · rename_i cs
      simp only [Bool.and_eq_true, Bool.or_eq_true, Bool.not_eq_true', List.isEmpty_eq_false_iff,
        bne_iff_ne, beq_iff_eq, passComponent?_eq_nil_iff hweek, isDateAndTimePart_iff] at h
      obtain ⟨⟨hne, hlast⟩, h | h | ⟨date, time, rfl, hdate, htime⟩⟩ := h
      · exact .weeks h
      · exact .date h hne
      · refine .time hdate htime ?_
        rintro rfl
        simp at hlast
    · cases h
  · intro h
    cases h with
    | weeks h =>
        have hlast : ∀ {cs}, IsComponent isDurationDigit 'W' cs →
            cs ≠ [] ∧ cs.getLast? ≠ some 'T' := by
          rintro _ ⟨-, -⟩
          simp
        simp [(hlast h).1, (hlast h).2, (passComponent?_eq_nil_iff hweek).mpr h]
    | date h hne =>
        have hlast := getLast?_ne_of_components h (by decide)
        simp [hne, hlast, isDateAndTimePart_iff.mpr (.inl h)]
    | @time date time hdate htime hne =>
        obtain ⟨unit, hmem, hunit⟩ := htime.exists_getLast hne
        have hlast : ('T' :: time).getLast? ≠ some 'T' := by
          rw [← List.singleton_append, List.getLast?_append, hunit, Option.some_or]
          rintro ⟨⟩
          exact absurd hmem (by decide)
        simp [hlast, isDateAndTimePart_iff.mpr (.inr ⟨date, time, rfl, hdate, htime⟩)]

theorem isDurationDigit_of_isDigit {c : Char} (h : isDigit c = true) :
    isDurationDigit c = true := by
  have hrange : 0x30 ≤ c.toNat ∧ c.toNat ≤ 0x39 := by
    simpa [isDigit, Char.le_def, UInt32.le_iff_toNat_le] using h
  simp [isDurationDigit, Unicode.decimalNumber, CodeSet.contains, CodeSet.has, hrange]

/-- A text is accepted if it is a duration over the digits of all scripts. The durations of ISO 8601
are those among them that are written with digits of ASCII. -/
theorem isDuration_iff (s : String) :
    (isDuration s = true ↔ IsDuration isDurationDigit s.toList) ∧
      (IsDuration isDigit s.toList ↔
        isDuration s = true ∧ ∀ c ∈ s.toList, isDurationDigit c = true → isDigit c = true) := by
  refine ⟨isDuration_iff_grammar s, fun h => ⟨?_, fun c hc hdigit => ?_⟩, fun ⟨h, hdigits⟩ => ?_⟩
  · exact (isDuration_iff_grammar s).mpr (h.of_digits fun c _ => isDurationDigit_of_isDigit)
  · rcases h.digit_or_mem c hc with hascii | hletter
    · exact hascii
    · rw [letters_not_digits c hletter] at hdigit
      cases hdigit
  · exact ((isDuration_iff_grammar s).mp h).of_digits hdigits

/-- A day in the digits of Arabic is accepted, and is no duration of ISO 8601. -/
theorem isDuration_arabicDigit :
    isDuration "P\u0661D" = true ∧ ¬IsDuration isDigit "P\u0661D".toList := by
  refine ⟨by decide +kernel, fun h => ?_⟩
  have hdigit := h.digit_or_mem '\u0661' (by decide)
  revert hdigit
  decide

end JsonSchema.Format
