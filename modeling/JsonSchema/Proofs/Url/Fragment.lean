import JsonSchema.Url.Resolve

/-!
# A fragment behind a URL

Up to its fragment a text is read as if it had none. So a URL without a fragment in its text has
none, and the text of a URL can be given a fragment and is still read as that URL.
-/

namespace JsonSchema.Url

/-- What can stand where the reading of a URL comes to its end: nothing, or a number sign and a
fragment. -/
inductive Tail : List Char → Prop
  | none : Tail []
  | fragment (rest : List Char) : Tail ('#' :: rest)

/-- The fragment that is read there. -/
def tailFragment : List Char → Option String
  | '#' :: rest => some (readFragment rest)
  | _ => none

/-- A URL with the fragment that is read there. -/
def withTail (u : Url) (tail : List Char) : Url := { u with fragment := tailFragment tail }

variable {cs tail : List Char} {kind : SchemeKind} {scheme : String} {base : Option Url}

/-! ## Stretches -/

theorem Tail.takeWhile_append (htail : Tail tail) {p : Char → Bool} (hp : p '#' = false) :
    (cs ++ tail).takeWhile p = cs.takeWhile p := by
  induction cs with
  | nil => cases htail <;> simp [hp]
  | cons c cs ih => by_cases hc : p c = true <;> simp [hc, ih]

theorem Tail.dropWhile_append (htail : Tail tail) {p : Char → Bool} (hp : p '#' = false) :
    (cs ++ tail).dropWhile p = cs.dropWhile p ++ tail := by
  induction cs with
  | nil => cases htail <;> simp [hp]
  | cons c cs ih => by_cases hc : p c = true <;> simp [hc, ih]

theorem drop_takeWhile_length (p : Char → Bool) (cs : List Char) :
    cs.drop (cs.takeWhile p).length = cs.dropWhile p := by
  induction cs with
  | nil => rfl
  | cons c cs ih => by_cases hc : p c = true <;> simp [hc, ih]

theorem drop_takeWhile_append (p : Char → Bool) :
    (cs ++ tail).drop (cs.takeWhile p).length = cs.drop (cs.takeWhile p).length ++ tail :=
  List.drop_append_of_le_length (List.takeWhile_sublist p).length_le

theorem Tail.any_head?_append (htail : Tail tail) {p : Char → Bool} (hp : p '#' = false) :
    (cs ++ tail).head?.any p = cs.head?.any p := by
  cases cs with
  | nil => cases htail <;> simp [hp]
  | cons c cs => rfl

theorem Tail.head?_append_eq (htail : Tail tail) {c : Char} (hc : c ≠ '#') :
    (cs ++ tail).head? = some c ↔ cs.head? = some c := by
  cases cs with
  | nil => cases htail <;> simp [hc.symm]
  | cons c cs => rfl

/-! ## Query -/

/-- What follows a path: nothing, or a query. -/
def IsEnd (cs : List Char) : Prop := '#' ∉ cs ∧ (cs = [] ∨ cs.head? = some '?')

theorem takeWhile_ne_of_notMem (h : '#' ∉ cs) : cs.takeWhile (· ≠ '#') = cs := by
  induction cs with
  | nil => rfl
  | cons c cs ih =>
      have hc : c ≠ '#' := (List.ne_of_not_mem_cons h).symm
      rw [List.takeWhile_cons_of_pos (by simpa using hc), ih (List.not_mem_of_not_mem_cons h)]

theorem readEnd_append (htail : Tail tail) {u : Url} (hcs : IsEnd cs) (hu : u.fragment = none) :
    readEnd u (cs ++ tail) = (readEnd u cs).withTail tail := by
  obtain ⟨hsharp, rfl | hquery⟩ := hcs
  · cases htail with
    | none => simp [readEnd, withTail, tailFragment, ← hu]
    | fragment rest => simp [readEnd, withTail, tailFragment]
  · obtain ⟨rest, rfl⟩ : ∃ rest, cs = '?' :: rest := List.head?_eq_some_iff.mp hquery
    have hrest := takeWhile_ne_of_notMem (List.not_mem_of_not_mem_cons hsharp)
    have hall : (rest ++ tail).takeWhile (· ≠ '#') = rest.takeWhile (· ≠ '#') :=
      htail.takeWhile_append (by decide)
    rw [hrest] at hall
    simp only [readEnd, List.cons_append, hall, hrest, List.drop_left, List.drop_length]
    cases htail with
    | none => simp [withTail, tailFragment, ← hu]
    | fragment more => rfl

/-! ## Path -/

theorem isSlash_sharp (kind : SchemeKind) : kind.isSlash '#' = false := by cases kind <;> rfl

theorem readPathState_append (kind : SchemeKind) (htail : Tail tail) (hcs : '#' ∉ cs)
    (s : PathState) (segment : List Char) :
    PathState.read kind s segment (cs ++ tail) =
        ((PathState.read kind s segment cs).1, (PathState.read kind s segment cs).2 ++ tail) ∧
      IsEnd (PathState.read kind s segment cs).2 := by
  induction cs generalizing s segment with
  | nil =>
      refine ⟨?_, List.not_mem_nil, .inl rfl⟩
      cases htail <;> simp [PathState.read, isSlash_sharp]
  | cons c cs ih =>
      have hc : c ≠ '#' := (List.ne_of_not_mem_cons hcs).symm
      have hrest := List.not_mem_of_not_mem_cons hcs
      simp only [List.cons_append, PathState.read]
      split
      · exact ih hrest _ _
      · split
        · rename_i hquery
          obtain rfl : c = '?' := hquery.resolve_right hc
          exact ⟨rfl, hcs, .inr rfl⟩
        · exact ih hrest _ _

theorem readPath_append (htail : Tail tail) (hcs : '#' ∉ cs) (start : List Char) :
    readPath kind start (cs ++ tail) = ((readPath kind start cs).1, (readPath kind start cs).2.1,
      (readPath kind start cs).2.2 ++ tail) := by
  obtain ⟨hread, -⟩ := readPathState_append kind htail hcs ⟨start.reverse, false⟩ []
  simp only [readPath, hread]

theorem isEnd_readPath (hcs : '#' ∉ cs) (start : List Char) :
    IsEnd (readPath kind start cs).2.2 :=
  (readPathState_append kind .none hcs _ _).2

/-! ## Authority -/

theorem endsAuthority_sharp (kind : SchemeKind) : endsAuthority kind '#' = true := by
  simp [endsAuthority]

/-- An at sign that is all there is of a URL is taken for empty credentials, one in front of a
fragment is refused. -/
theorem readCredentials_append (htail : Tail tail) (hlone : cs ≠ ['@']) :
    readCredentials kind (cs ++ tail) =
      (readCredentials kind cs).map fun p => (p.1, p.2 ++ tail) := by
  unfold readCredentials
  dsimp only
  rw [htail.takeWhile_append (by simp [endsAuthority_sharp])]
  have hlength {l : List Char} (h : ((cs.takeWhile (!endsAuthority kind ·)).reverse.dropWhile
      (· ≠ '@')) = l) : l.length ≤ cs.length := by
    have hdrop := (List.dropWhile_suffix (· ≠ '@')
      (l := (cs.takeWhile (!endsAuthority kind ·)).reverse)).length_le
    have htake := (List.takeWhile_sublist (!endsAuthority kind ·) (l := cs)).length_le
    rw [h, List.length_reverse] at hdrop
    exact Nat.le_trans hdrop htake
  split
  · rfl
  · rename_i h
    cases cs with
    | nil => simp at h
    | cons c rest =>
        cases rest with
        | nil =>
            have hc : c = '@' := by
              cases hend : endsAuthority kind c <;> by_cases hat : c = '@' <;>
                simp [hend, hat] at h ⊢
            exact absurd (by rw [hc]) hlone
        | cons d rest =>
            simp only [List.cons_append, List.drop_one, List.tail_cons, List.head?_cons]
            split <;> rfl
  · rename_i h
    have hle := hlength h
    rw [List.drop_append_of_le_length (by simpa using hle)]
    rfl

theorem suffix_of_readCredentials {p : Authority × List Char}
    (h : readCredentials kind cs = .ok p) : p.2 <:+ cs := by
  unfold readCredentials at h
  dsimp only at h
  split at h
  · cases h
    exact List.suffix_refl _
  · split at h
    · cases h
    · cases h
      exact List.drop_suffix _ _
  · cases h
    exact List.drop_suffix _ _

theorem hostText_append (htail : Tail tail) (inside : Bool) :
    hostText kind inside (cs ++ tail) = hostText kind inside cs := by
  induction cs generalizing inside with
  | nil => cases htail <;> simp [hostText, endsAuthority_sharp]
  | cons c cs ih => simp only [List.cons_append, hostText, ih]

theorem prefix_hostText (kind : SchemeKind) (inside : Bool) (cs : List Char) :
    hostText kind inside cs <+: cs := by
  induction cs generalizing inside with
  | nil => exact List.prefix_refl _
  | cons c cs ih =>
      rw [hostText]
      split
      · exact List.nil_prefix
      · exact List.cons_prefix_cons.mpr ⟨rfl, ih _⟩

theorem readPort_append (htail : Tail tail) (value : Option Nat) :
    readPort value (cs ++ tail) = (readPort value cs).map fun p => (p.1, p.2 ++ tail) := by
  induction cs generalizing value with
  | nil => cases htail <;> simp [readPort, Except.map]
  | cons c cs ih =>
      simp only [List.cons_append, readPort]
      split
      · split
        · rfl
        · exact ih _
      · split <;> rfl

theorem drop_hostText_append (cs tail : List Char) :
    (cs ++ tail).drop (hostText kind false cs).length =
      cs.drop (hostText kind false cs).length ++ tail :=
  List.drop_append_of_le_length (prefix_hostText kind false cs).length_le

theorem readHostPort_append (htail : Tail tail) :
    readHostPort (cs ++ tail) = (readHostPort cs).map fun p => (p.1, p.2 ++ tail) := by
  cases cs with
  | nil => cases htail <;> rfl
  | cons c cs =>
      by_cases hc : c = ':'
      · subst hc
        exact readPort_append htail none
      · simp [readHostPort, hc, Except.map]

theorem suffix_of_readPort {value : Option Nat} {p : Option Nat × List Char}
    (h : readPort value cs = .ok p) : p.2 <:+ cs := by
  induction cs generalizing value with
  | nil =>
      cases h
      exact List.suffix_refl _
  | cons c cs ih =>
      rw [readPort] at h
      split at h
      · dsimp only at h
        split at h
        · cases h
        · exact (ih h).trans (List.suffix_cons c cs)
      · split at h <;> cases h
        exact List.suffix_refl _

theorem suffix_of_readHostPort {p : Option Nat × List Char} (h : readHostPort cs = .ok p) :
    p.2 <:+ cs := by
  unfold readHostPort at h
  split at h
  · exact (suffix_of_readPort h).trans (List.suffix_cons _ _)
  · cases h
    exact List.suffix_refl _

theorem readBehindAuthority_append (htail : Tail tail) (hcs : '#' ∉ cs) (authority : Authority) :
    readBehindAuthority scheme authority (cs ++ tail) =
      (readBehindAuthority scheme authority cs).withTail tail := by
  unfold readBehindAuthority
  dsimp only
  have hall : (cs ++ tail).head?.all (fun c => c = '?' || c = '#') =
      cs.head?.all (fun c => c = '?' || c = '#') := by
    cases cs with
    | nil => cases htail <;> rfl
    | cons c cs => rfl
  rw [hall, htail.any_head?_append (isSlash_sharp _)]
  split
  · rename_i hend
    refine readEnd_append htail ⟨hcs, ?_⟩ rfl
    cases cs with
    | nil => exact .inl rfl
    | cons c cs =>
        have hc : c ≠ '#' := (List.ne_of_not_mem_cons hcs).symm
        exact .inr (by simpa [hc] using hend.2)
  · split
    · rename_i hslash
      cases cs with
      | nil => simp at hslash
      | cons c cs =>
          have hrest := List.not_mem_of_not_mem_cons hcs
          simp only [List.cons_append, List.drop_one, List.tail_cons]
          rw [readPath_append htail hrest]
          exact readEnd_append htail (isEnd_readPath hrest _) rfl
    · rw [readPath_append htail hcs]
      exact readEnd_append htail (isEnd_readPath hcs _) rfl

theorem readAuthority_append (htail : Tail tail) (hcs : '#' ∉ cs) (hlone : cs ≠ ['@']) :
    readAuthority scheme (cs ++ tail) = (readAuthority scheme cs).map (withTail · tail) := by
  unfold readAuthority
  dsimp only
  rw [readCredentials_append htail hlone]
  cases hcredentials : readCredentials (SchemeKind.ofScheme scheme) cs with
  | error e => rfl
  | ok p =>
      dsimp only [Except.map, bind, Except.bind]
      rw [hostText_append htail, drop_hostText_append]
      split
      · rfl
      · cases readHost (SchemeKind.ofScheme scheme)
            (hostText (SchemeKind.ofScheme scheme) false p.2) with
        | error e => rfl
        | ok host =>
            dsimp only
            simp only [readHostPort_append htail, htail.head?_append_eq (c := ':') (by decide)]
            split
            · rfl
            · cases hport : readHostPort
                  (p.2.drop (hostText (SchemeKind.ofScheme scheme) false p.2).length) with
              | error e => rfl
              | ok q =>
                  have hq : '#' ∉ q.2 := fun hmem => hcs <|
                    ((suffix_of_readHostPort hport).trans (List.drop_suffix _ _)).trans
                      (suffix_of_readCredentials hcredentials) |>.subset hmem
                  dsimp only [Except.map]
                  split
                  · rfl
                  · exact congrArg Except.ok (readBehindAuthority_append htail hq _)

/-- How a text is read with a tail, given how it is read without one. They differ only where a text
ends with an at sign in front of an empty host. -/
inductive Extended (cs tail : List Char) : Reading Url → Reading Url → Prop
  | same (x : Reading Url) : Extended cs tail x (x.map (withTail · tail))
  | lone {scheme : String} (h : cs.getLast? = some '@') :
      Extended cs tail (.ok { scheme, authority := some {} }) (.error .emptyHost)

theorem Extended.of_suffix {cs' : List Char} {x y : Reading Url} (h : Extended cs' tail x y)
    (hcs : cs' <:+ cs) : Extended cs tail x y := by
  cases h with
  | same => exact .same x
  | lone h =>
      obtain ⟨front, rfl⟩ := hcs
      exact .lone (by rw [List.getLast?_append, h]; rfl)

theorem extended_ok {u : Url} {x : Url} (h : x = u.withTail tail) :
    Extended cs tail (.ok u) (.ok x) := h ▸ .same (.ok u)

theorem readAuthority_lone (scheme : String) :
    readAuthority scheme ['@'] = if SchemeKind.ofScheme scheme = .plain then
      .ok { scheme, authority := some {} } else .error .emptyHost := by
  have hcredentials (kind : SchemeKind) : readCredentials kind ['@'] = .ok ({}, []) := by
    cases kind <;> rfl
  have hspecial : specialHost [] = .error .emptyHost := by rfl
  cases hkind : SchemeKind.ofScheme scheme <;>
    simp [readAuthority, hkind, hcredentials, bind, Except.bind, pure, Except.pure, hostText,
      readHost, readHostPort, hspecial, opaqueHost, readBehindAuthority, readEnd,
      SchemeKind.isSpecial, Percent.encode]

theorem readAuthority_lone_fragment (scheme : String) (rest : List Char) :
    readAuthority scheme ('@' :: '#' :: rest) = .error .emptyHost := by
  have hcredentials (kind : SchemeKind) :
      readCredentials kind ('@' :: '#' :: rest) = .error .emptyHost := by
    cases kind <;> simp [readCredentials, endsAuthority, SchemeKind.isSlash]
  unfold readAuthority
  dsimp only
  rw [hcredentials]
  rfl

theorem extended_readAuthority (htail : Tail tail) (hcs : '#' ∉ cs) (scheme : String) :
    Extended cs tail (readAuthority scheme cs) (readAuthority scheme (cs ++ tail)) := by
  by_cases hlone : cs = ['@']
  · subst hlone
    cases htail with
    | none =>
        rw [List.append_nil, readAuthority_lone]
        split
        · exact extended_ok rfl
        · exact .same (.error .emptyHost)
    | fragment rest =>
        rw [List.cons_append, List.nil_append, readAuthority_lone_fragment, readAuthority_lone]
        split
        · exact .lone rfl
        · exact .same (.error .emptyHost)
  · rw [readAuthority_append htail hcs hlone]
    exact .same _

/-! ## Files -/

theorem fileUrl_append (htail : Tail tail) (hcs : '#' ∉ cs) (host : String) (start : List Char) :
    fileUrl host start (cs ++ tail) = (fileUrl host start cs).withTail tail := by
  unfold fileUrl
  rw [readPath_append htail hcs]
  exact readEnd_append htail (isEnd_readPath hcs _) rfl

theorem readFileAuthority_append (htail : Tail tail) (hcs : '#' ∉ cs) :
    readFileAuthority (cs ++ tail) = (readFileAuthority cs).map (withTail · tail) := by
  unfold readFileAuthority
  dsimp only
  rw [htail.takeWhile_append (by decide), drop_takeWhile_append]
  split
  · exact congrArg Except.ok (fileUrl_append htail hcs _ _)
  · generalize hname : cs.takeWhile _ = name
    have hrest : '#' ∉ cs.drop name.length := fun h => hcs ((List.drop_suffix _ _).subset h)
    cases fileHost name with
    | error e => rfl
    | ok host =>
        dsimp only [bind, Except.bind]
        refine congrArg Except.ok ?_
        rw [htail.any_head?_append (by decide)]
        split
        · rename_i hslash
          cases hrest' : cs.drop name.length with
          | nil => simp [hrest'] at hslash
          | cons c rest =>
              have hmem : '#' ∉ rest := fun h => hrest (hrest' ▸ List.mem_cons_of_mem _ h)
              simp only [List.cons_append, List.drop_one, List.tail_cons]
              rw [readPath_append htail hmem]
              exact readEnd_append htail (isEnd_readPath hmem _) rfl
        · rw [readPath_append htail hrest]
          exact readEnd_append htail (isEnd_readPath hrest _) rfl

theorem isDriveLetter_sharp (c : Char) : isDriveLetter [c, '#'] = false := by
  simp [isDriveLetter]

theorem isDriveLetter_sharp_cons (c : Char) : isDriveLetter ['#', c] = false := by
  have hsharp : isLetter '#' = false := by decide
  simp [isDriveLetter, hsharp]

theorem startsWithDrive_append (htail : Tail tail) :
    startsWithDrive (cs ++ tail) = startsWithDrive cs := by
  cases htail with
  | none => rw [List.append_nil]
  | fragment rest =>
      match cs with
      | [] => cases rest with
        | nil => rfl
        | cons c rest => cases rest <;> simp [startsWithDrive, isDriveLetter_sharp_cons]
      | [c] => cases rest <;> simp [startsWithDrive, isDriveLetter_sharp]
      | [c, d] => simp [startsWithDrive]
      | _ :: _ :: _ :: _ => rfl

theorem readBelow_append (htail : Tail tail) (hcs : '#' ∉ cs) (b : Url) :
    readBelow b (cs ++ tail) = (readBelow b cs).withTail tail := by
  unfold readBelow
  dsimp only
  rw [readPath_append htail hcs]
  exact readEnd_append htail (isEnd_readPath hcs _) rfl

theorem rooted_append (htail : Tail tail) (hcs : '#' ∉ cs) (base : Option Url) :
    readFile.rooted base (cs ++ tail) = (readFile.rooted base cs).withTail tail := by
  have hslash : '#' ∉ '/' :: cs := by simpa using hcs
  unfold readFile.rooted
  rw [← List.cons_append]
  split
  · rw [startsWithDrive_append htail]
    split
    · exact fileUrl_append htail hslash _ _
    · split
      · exact fileUrl_append htail hslash _ _
      · exact fileUrl_append htail hslash _ _
  · exact fileUrl_append htail hslash _ _

theorem relative_of_ne {b : Url} {c : Char} (hquery : c ≠ '?') (hsharp : c ≠ '#')
    (rest : List Char) : readFile.relative (some b) (c :: rest) =
      if startsWithDrive (c :: rest) then .ok (fileUrl "" ['/'] (c :: rest))
      else .ok (readBelow b (c :: rest)) := by
  simp [readFile.relative, hquery, hsharp]

theorem relative_append (htail : Tail tail) (hcs : '#' ∉ cs) (base : Option Url) :
    readFile.relative base (cs ++ tail) = (readFile.relative base cs).map (withTail · tail) := by
  cases base with
  | none => exact congrArg Except.ok (fileUrl_append htail hcs _ _)
  | some b =>
      cases cs with
      | nil => cases htail <;> rfl
      | cons c cs =>
          have hsharp : c ≠ '#' := (List.ne_of_not_mem_cons hcs).symm
          by_cases hquery : c = '?'
          · subst hquery
            exact congrArg Except.ok (readEnd_append htail ⟨hcs, .inr rfl⟩ rfl)
          · have hdrive : startsWithDrive (c :: cs ++ tail) = startsWithDrive (c :: cs) :=
              startsWithDrive_append htail
            rw [List.cons_append] at hdrive ⊢
            rw [relative_of_ne hquery hsharp, relative_of_ne hquery hsharp, hdrive]
            split
            · exact congrArg Except.ok (fileUrl_append htail hcs _ _)
            · exact congrArg Except.ok (readBelow_append htail hcs b)

theorem readFile_append (htail : Tail tail) (hcs : '#' ∉ cs) (base : Option Url) :
    readFile base (cs ++ tail) = (readFile base cs).map (withTail · tail) := by
  have hrelative := relative_append htail hcs base
  match cs with
  | [] =>
      cases htail with
      | none => exact hrelative
      | fragment rest => cases rest <;> simpa [readFile, isSlash_sharp] using hrelative
  | [c] =>
      have hrooted : readFile.rooted base ([] ++ tail) = (readFile.rooted base []).withTail tail :=
        rooted_append htail List.not_mem_nil base
      by_cases hc : SchemeKind.file.isSlash c = true
      · cases htail <;> simpa [readFile, isSlash_sharp, hc, Except.map] using hrooted
      · cases htail <;> simpa [readFile, isSlash_sharp, hc] using hrelative
  | c :: d :: rest =>
      have hd : '#' ∉ d :: rest := List.not_mem_of_not_mem_cons hcs
      simp only [readFile, List.cons_append]
      split
      · exact readFileAuthority_append htail (List.not_mem_of_not_mem_cons hd)
      · split
        · exact congrArg Except.ok (rooted_append htail hd base)
        · exact hrelative

/-! ## References -/

/-- A slash of either kind. -/
def isEitherSlash (c : Char) : Bool := c = '/' || c = '\\'

theorem isEitherSlash_sharp : isEitherSlash '#' = false := by decide

/-- Reads a path from the root of a base. -/
def readRooted (b : Url) (cs : List Char) : Url :=
  let p := readPath (.ofScheme b.scheme) ['/'] cs
  readEnd { b with path := p.1, query := none, fragment := none } p.2.2

theorem readRooted_append (htail : Tail tail) (hcs : '#' ∉ cs) (b : Url) :
    readRooted b (cs ++ tail) = (readRooted b cs).withTail tail := by
  unfold readRooted
  dsimp only
  rw [readPath_append htail hcs]
  exact readEnd_append htail (isEnd_readPath hcs _) rfl

theorem readRelative_of_ne {b : Url} {c : Char} {rest : List Char} (hquery : c ≠ '?')
    (hsharp : c ≠ '#') (hslashes : ¬(c = '/' ∧ rest.head? = some '/')) :
    readRelative b (c :: rest) =
      if isEitherSlash c ∧ rest.head?.any isEitherSlash then
        readAuthority b.scheme ((c :: rest).dropWhile isEitherSlash)
      else if isEitherSlash c then .ok (readRooted b rest)
      else .ok (readBelow b (c :: rest)) := by
  have hpattern (more : List Char) : ¬(c = '/' ∧ rest = '/' :: more) := by
    rintro ⟨hc, rfl⟩
    exact hslashes ⟨hc, rfl⟩
  unfold readRelative
  split
  · simp_all
  · simp_all
  · simp_all
  · simp_all
  · rename_i heq
    cases heq
    rfl

theorem extended_readRelative (htail : Tail tail) (hcs : '#' ∉ cs) (b : Url) :
    Extended cs tail (readRelative b cs) (readRelative b (cs ++ tail)) := by
  cases cs with
  | nil => cases htail <;> exact extended_ok rfl
  | cons c cs =>
      have hsharp : c ≠ '#' := (List.ne_of_not_mem_cons hcs).symm
      have hrest := List.not_mem_of_not_mem_cons hcs
      by_cases hquery : c = '?'
      · subst hquery
        exact extended_ok (readEnd_append htail ⟨hcs, .inr rfl⟩ rfl)
      · by_cases hslashes : c = '/' ∧ cs.head? = some '/'
        · obtain ⟨rfl, hhead⟩ := hslashes
          obtain ⟨rest, rfl⟩ := List.head?_eq_some_iff.mp hhead
          refine (extended_readAuthority htail (List.not_mem_of_not_mem_cons hrest) _).of_suffix ?_
          exact (List.suffix_cons _ _).trans (List.suffix_cons _ _)
        · have hslashes' : ¬(c = '/' ∧ (cs ++ tail).head? = some '/') := by
            rwa [htail.head?_append_eq (by decide)]
          rw [List.cons_append, readRelative_of_ne hquery hsharp hslashes,
            readRelative_of_ne hquery hsharp hslashes', htail.any_head?_append isEitherSlash_sharp,
            ← List.cons_append, htail.dropWhile_append isEitherSlash_sharp]
          split
          · refine (extended_readAuthority htail ?_ _).of_suffix (List.dropWhile_suffix _)
            exact fun hmem => hcs ((List.dropWhile_suffix _).subset hmem)
          · split
            · exact extended_ok (readRooted_append htail hrest b)
            · exact extended_ok (readBelow_append htail hcs b)

/-- Reads a path that is no list of segments. -/
def readOpaque (scheme : String) (cs : List Char) : Url :=
  let path := cs.takeWhile fun c => c ≠ '?' && c ≠ '#'
  readEnd { scheme, path := String.ofList (Percent.encode Percent.control path) }
    (cs.drop path.length)

theorem isEnd_drop_takeWhile (hcs : '#' ∉ cs) :
    IsEnd (cs.drop (cs.takeWhile fun c => c ≠ '?' && c ≠ '#').length) := by
  have hmem : '#' ∉ cs.dropWhile fun c => c ≠ '?' && c ≠ '#' :=
    fun h => hcs ((List.dropWhile_suffix _).subset h)
  have hhead := List.head?_dropWhile_not (fun c => c ≠ '?' && c ≠ '#') cs
  rw [drop_takeWhile_length]
  refine ⟨hmem, ?_⟩
  cases hrest : cs.dropWhile fun c => c ≠ '?' && c ≠ '#' with
  | nil => exact .inl rfl
  | cons c rest =>
      rw [hrest] at hhead hmem
      have hc : c ≠ '#' := (List.ne_of_not_mem_cons hmem).symm
      exact .inr (by simpa [hc] using hhead)

theorem readOpaque_append (htail : Tail tail) (hcs : '#' ∉ cs) :
    readOpaque scheme (cs ++ tail) = (readOpaque scheme cs).withTail tail := by
  unfold readOpaque
  dsimp only
  rw [htail.takeWhile_append (by decide), drop_takeWhile_append]
  exact readEnd_append htail (isEnd_drop_takeWhile hcs) rfl

theorem readAbsolute_of_ne (hkind : SchemeKind.ofScheme scheme = .plain)
    (hslash : cs.head? ≠ some '/') :
    readAbsolute base scheme cs = .ok (readOpaque scheme cs) := by
  unfold readAbsolute
  rw [hkind]
  dsimp only
  split
  · simp at hslash
  · simp at hslash
  · rfl

theorem readAbsolute_of_slash (hkind : SchemeKind.ofScheme scheme = .plain)
    (hslash : cs.head? ≠ some '/') :
    readAbsolute base scheme ('/' :: cs) = .ok (readRooted { scheme } cs) := by
  unfold readAbsolute
  rw [hkind]
  dsimp only
  split
  · simp_all
  · rename_i heq
    cases heq
    simp [readRooted, hkind]
  · simp_all

theorem extended_readPlain (htail : Tail tail) (hcs : '#' ∉ cs) (base : Option Url)
    (hkind : SchemeKind.ofScheme scheme = .plain) :
    Extended cs tail (readAbsolute base scheme cs) (readAbsolute base scheme (cs ++ tail)) := by
  by_cases hslash : cs.head? = some '/'
  · obtain ⟨rest, rfl⟩ := List.head?_eq_some_iff.mp hslash
    have hrest := List.not_mem_of_not_mem_cons hcs
    by_cases hslashes : rest.head? = some '/'
    · obtain ⟨more, rfl⟩ := List.head?_eq_some_iff.mp hslashes
      have hauthority (more : List Char) :
          readAbsolute base scheme ('/' :: '/' :: more) = readAuthority scheme more := by
        simp [readAbsolute, hkind]
      rw [List.cons_append, List.cons_append, hauthority, hauthority]
      refine (extended_readAuthority htail (List.not_mem_of_not_mem_cons hrest) _).of_suffix ?_
      exact (List.suffix_cons _ _).trans (List.suffix_cons _ _)
    · have hslashes' : (rest ++ tail).head? ≠ some '/' := by
        rwa [ne_eq, htail.head?_append_eq (by decide)]
      rw [List.cons_append, readAbsolute_of_slash hkind hslashes,
        readAbsolute_of_slash hkind hslashes']
      exact extended_ok (readRooted_append htail hrest _)
  · have hslash' : (cs ++ tail).head? ≠ some '/' := by
      rwa [ne_eq, htail.head?_append_eq (by decide)]
    rw [readAbsolute_of_ne hkind hslash, readAbsolute_of_ne hkind hslash']
    exact extended_ok (readOpaque_append htail hcs)

theorem extended_readAbsolute (htail : Tail tail) (hcs : '#' ∉ cs) (base : Option Url)
    (scheme : String) :
    Extended cs tail (readAbsolute base scheme cs) (readAbsolute base scheme (cs ++ tail)) := by
  cases hkind : SchemeKind.ofScheme scheme with
  | file =>
      simp only [readAbsolute, hkind]
      rw [readFile_append htail hcs]
      exact .same _
  | network =>
      simp only [readAbsolute, hkind]
      rw [htail.dropWhile_append (isSlash_sharp _)]
      have hsuffix := List.dropWhile_suffix SchemeKind.network.isSlash (l := cs)
      have hrest : '#' ∉ cs.dropWhile SchemeKind.network.isSlash :=
        fun hmem => hcs (hsuffix.subset hmem)
      have hauthority := (extended_readAuthority htail hrest scheme).of_suffix hsuffix
      split
      · rename_i b _
        by_cases hshort : cs.length < (cs.dropWhile SchemeKind.network.isSlash).length + 2
        · rw [if_pos hshort, if_pos (by simp; omega)]
          exact extended_readRelative htail hcs b
        · rw [if_neg hshort, if_neg (by simp; omega)]
          exact hauthority
      · exact hauthority
  | plain => exact extended_readPlain htail hcs base hkind

theorem splitScheme_append (htail : Tail tail) :
    splitScheme (cs ++ tail) = (splitScheme cs).map fun p => (p.1, p.2 ++ tail) := by
  unfold splitScheme
  dsimp only
  rw [htail.takeWhile_append (by decide), drop_takeWhile_append]
  cases cs.takeWhile isSchemeChar with
  | nil => rfl
  | cons first name =>
      cases cs.drop (first :: name).length with
      | nil => cases htail <;> rfl
      | cons c rest =>
          by_cases hc : c = ':'
          · subst hc
            by_cases hletter : isLetter first = true <;> simp [hletter]
          · simp [hc]

theorem suffix_of_splitScheme {rest : List Char} (h : splitScheme cs = some (scheme, rest)) :
    rest <:+ cs := by
  unfold splitScheme at h
  dsimp only at h
  split at h
  · rename_i hrest
    split at h
    · cases h
      exact (hrest ▸ List.suffix_cons _ _).trans (List.drop_suffix _ _)
    · cases h
  · cases h

/-- Reads the significant characters of a text. -/
def readSignificant (base : Option Url) (cs : List Char) : Reading Url :=
  match splitScheme cs, base with
  | some (scheme, rest), _ => readAbsolute base scheme rest
  | none, none => .error .relativeWithoutBase
  | none, some b => match cs with
    | '#' :: rest => .ok { b with fragment := some (readFragment rest) }
    | _ =>
      if b.isOpaque then .error .relativeWithOpaqueBase
      else if b.scheme = "file" then readFile base cs
      else readRelative b cs

theorem read_eq (base : Option Url) (s : String) :
    read base s = readSignificant base (significant s) := rfl

theorem readSignificant_of_ne {b : Url} {c : Char} {rest : List Char}
    (hscheme : splitScheme (c :: rest) = none) (hc : c ≠ '#') :
    readSignificant (some b) (c :: rest) =
      if b.isOpaque then .error .relativeWithOpaqueBase
      else if b.scheme = "file" then readFile (some b) (c :: rest)
      else readRelative b (c :: rest) := by
  simp [readSignificant, hscheme, hc]

/-- Up to its fragment a text is read as if it had none. -/
theorem extended_readSignificant (htail : Tail tail) (hcs : '#' ∉ cs) (hne : cs ≠ [])
    (base : Option Url) :
    Extended cs tail (readSignificant base cs) (readSignificant base (cs ++ tail)) := by
  have hsplit : splitScheme (cs ++ tail) = (splitScheme cs).map fun p => (p.1, p.2 ++ tail) :=
    splitScheme_append htail
  cases hscheme : splitScheme cs with
  | some p =>
      rw [hscheme] at hsplit
      have hsuffix := suffix_of_splitScheme hscheme
      simp only [readSignificant, hscheme, hsplit, Option.map_some]
      exact (extended_readAbsolute htail (fun h => hcs (hsuffix.subset h)) base p.1).of_suffix
        hsuffix
  | none =>
      rw [hscheme] at hsplit
      cases base with
      | none =>
          simp only [readSignificant, hscheme, hsplit, Option.map_none]
          exact .same (.error .relativeWithoutBase)
      | some b =>
          obtain ⟨c, rest, rfl⟩ := List.exists_cons_of_ne_nil hne
          have hc : c ≠ '#' := (List.ne_of_not_mem_cons hcs).symm
          have hfile := readFile_append htail hcs (some b)
          have hrelative := extended_readRelative htail hcs b
          rw [List.cons_append] at hsplit hfile hrelative ⊢
          rw [readSignificant_of_ne hscheme hc, readSignificant_of_ne hsplit hc]
          split
          · exact .same (.error .relativeWithOpaqueBase)
          · split
            · rw [hfile]
              exact .same _
            · exact hrelative

theorem Extended.fragment_eq {x y : Reading Url} (h : Extended cs tail x y) {u : Url}
    (hy : y = .ok u) : u.fragment = tailFragment tail := by
  cases h with
  | same =>
      cases x with
      | error e => cases hy
      | ok v =>
          cases hy
          rfl
  | lone => cases hy

theorem readSignificant_nil {b u : Url} (h : readSignificant (some b) [] = .ok u) :
    u.fragment = none := by
  have hscheme : splitScheme [] = none := rfl
  simp only [readSignificant, hscheme] at h
  split at h
  · cases h
  · split at h
    · rw [← Except.ok.inj h]
    · rw [← Except.ok.inj h]

/-- A reference without a number sign stands for a URL without a fragment. -/
theorem fragment_of_join {b u : Url} {reference : String} (hsharp : '#' ∉ significant reference)
    (h : b.join reference = .ok u) : u.fragment = none := by
  rw [join, read_eq] at h
  by_cases hne : significant reference = []
  · rw [hne] at h
    exact readSignificant_nil h
  · have hextended := extended_readSignificant .none hsharp hne (some b)
    rw [List.append_nil] at hextended
    exact hextended.fragment_eq h

end JsonSchema.Url
