import JsonSchema.Url.Percent

/-!
# URLs

A URL in normal form, part by part. Each part is kept as it is written, and the text of a URL is
put together from them, so two URLs with one text are the same.
-/

namespace JsonSchema

/-- Who and where: credentials, host and port. -/
structure Authority where
  username : String := ""
  password : Option String := none
  host : String := ""
  port : Option Nat := none
  deriving DecidableEq, Repr

/-- A URL in normal form. -/
structure Url where
  scheme : String
  authority : Option Authority := none
  path : String := ""
  query : Option String := none
  fragment : Option String := none
  deriving DecidableEq, Repr

instance : Inhabited Url := ⟨{ scheme := "" }⟩

/-- The text of an authority. -/
def Authority.text (a : Authority) : String :=
  let password := match a.password with
    | some p => ":" ++ p
    | none => ""
  let at' := if a.username.isEmpty ∧ a.password.isNone then "" else "@"
  let port := match a.port with
    | some n => ":" ++ toString n
    | none => ""
  a.username ++ password ++ at' ++ a.host ++ port

namespace Url

/-- What comes before the fragment. A path that begins with two slashes gets a harmless segment in
front of it where it would otherwise be taken for an authority. -/
def textBeforeFragment (u : Url) : String :=
  let authority := match u.authority with
    | some a => "//" ++ a.text
    | none => if "//".toList.isPrefixOf u.path.toList then "/." else ""
  let query := match u.query with
    | some q => "?" ++ q
    | none => ""
  u.scheme ++ ":" ++ authority ++ u.path ++ query

/-- The text of a URL. -/
def text (u : Url) : String :=
  match u.fragment with
  | some f => u.textBeforeFragment ++ "#" ++ f
  | none => u.textBeforeFragment

/-- A path that is no list of segments, such as the rest of a `mailto:`. Nothing can be relative to
it. -/
def isOpaque (u : Url) : Bool := u.authority.isNone && u.path.toList.head? != some '/'

/-- Drops the final spaces of a text. -/
def trimSpaces (s : String) : String :=
  String.ofList (s.toList.reverse.dropWhile (· = ' ')).reverse

theorem trimSpaces_trimSpaces (s : String) : trimSpaces (trimSpaces s) = trimSpaces s := by
  have h (l : List Char) : (l.dropWhile (· = ' ')).dropWhile (· = ' ') = l.dropWhile (· = ' ') := by
    induction l with
    | nil => rfl
    | cons c l ih => by_cases hc : c = ' ' <;> simp [hc, ih]
  simp [trimSpaces, h]

/-- Dropping final spaces leaves the beginning of a text. -/
theorem toList_trimSpaces_prefix (s : String) : (trimSpaces s).toList <+: s.toList := by
  have h := s.toList.reverse.dropWhile_suffix (· = ' ')
  simpa [trimSpaces] using List.reverse_prefix.mpr h

theorem head?_trimSpaces_ne {s : String} {c : Char} (h : s.toList.head? ≠ some c) :
    (trimSpaces s).toList.head? ≠ some c := by
  obtain ⟨rest, hrest⟩ := toList_trimSpaces_prefix s
  intro hc
  apply h
  rw [← hrest, List.head?_append, hc]
  rfl

/-- The URL without its fragment. Spaces at the end of an opaque path go with it, unless a query
keeps them in. -/
def withoutFragment (u : Url) : Url :=
  let path := if u.isOpaque ∧ u.query.isNone then trimSpaces u.path else u.path
  { u with fragment := none, path }

@[simp] theorem withoutFragment_withoutFragment (u : Url) :
    u.withoutFragment.withoutFragment = u.withoutFragment := by
  by_cases h : u.isOpaque ∧ u.query.isNone
  · have ho : u.authority.isNone ∧ u.path.toList.head? ≠ some '/' := by
      simpa only [isOpaque, Bool.and_eq_true, bne_iff_ne] using h.1
    have hu : u.withoutFragment = { u with fragment := none, path := trimSpaces u.path } := by
      simp only [withoutFragment, h, and_self, ite_true]
    have hh : u.withoutFragment.isOpaque ∧ u.withoutFragment.query.isNone := by
      refine ⟨?_, by simpa [hu] using h.2⟩
      simp only [hu, isOpaque, ho.1, Bool.true_and, bne_iff_ne]
      exact head?_trimSpaces_ne ho.2
    rw [withoutFragment, if_pos hh]
    simp [hu, trimSpaces_trimSpaces]
  · have hu : u.withoutFragment = { u with fragment := none } := by
      simp only [withoutFragment, h, ite_false]
    rw [hu]
    exact hu

/-- A text as a fragment. Tabs and line ends are left out. -/
def encodeFragment (s : String) : String :=
  String.ofList (Percent.encode Percent.fragment
    (s.toList.filter fun c => c ≠ '\t' && c ≠ '\n' && c ≠ '\r'))

/-- The URL with another fragment. -/
def withFragment (u : Url) (fragment : String) : Url :=
  { u with fragment := some (encodeFragment fragment) }

end Url
end JsonSchema
