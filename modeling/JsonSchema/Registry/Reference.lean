import JsonSchema.Pointer.Evaluate
import JsonSchema.Registry.Basic

/-!
# Following references

A reference is joined with its base. What comes before the fragment names a resource; the fragment
is empty, a JSON Pointer from there, or a name that the resource declares.
-/

namespace JsonSchema

namespace Reference

/-- The value of a sign or hexadecimal digit in front of a hexadecimal digit: a plus sign counts as
nothing. -/
def leadingHex? (b : UInt8) : Option Nat :=
  if b = 0x2B then some 0 else Percent.byteHexValue? b

/-- Undoes the escapes of a fragment: a percent sign and two digits are the byte that they write. -/
def unescape : List UInt8 → List UInt8
  | 0x25 :: a :: b :: rest =>
    match leadingHex? a, Percent.byteHexValue? b with
    | some x, some y => (16 * x + y).toUInt8 :: unescape rest
    | _, _ => 0x25 :: unescape (a :: b :: rest)
  | b :: rest => b :: unescape rest
  | [] => []

/-- The text that a fragment stands for, if it is UTF-8. -/
def unescapeText? (fragment : String) : Option String :=
  Percent.ofUtf8? (unescape (Percent.utf8 fragment.toList))

/-- The pointer that a fragment writes. -/
def pointer? (fragment : String) : Except ReferenceFault Pointer :=
  match unescapeText? fragment with
  | none => .error .notUtf8
  | some text => match Pointer.ofText? text with
    | some p => .ok p
    | none => .error (.notPointer text)

end Reference

/-- What a reference leads to. -/
structure Target where
  document : Url
  pointer : Pointer
  /-- The base there, before the `$id` of the target itself. -/
  base : Url
  contents : Value

namespace Document

/-- The base that the `$id` of a value sets up inside it. -/
def baseInside (base : Url) (v : Value) : Except ResolutionError Url :=
  match v.get? "$id" with
  | some (.string id) => (Declarations.joinId base id).map Url.withoutFragment
  | _ => .ok base

/-- The base at the end of a path: every `$id` on the way counts, the one at its end does not.
The walk reads indexes less strictly than the one to the value. -/
def baseAlong (missing : ResolutionError) (base : Url) (v : Value) :
    List String → Except ResolutionError Url
  | [] => .ok base
  | token :: rest =>
    match baseInside base v with
    | .error e => .error e
    | .ok inner => match v.laxChild? token with
      | some child => baseAlong missing inner child rest
      | none => .error missing

/-- The base at a pointer into a document. -/
def baseAt (d : Document) (p : Pointer) : Except ResolutionError Url :=
  baseAlong (.pointerNotFound d.uri p) d.base d.contents p.tokens

end Document

namespace Registry

/-- Where the resource with a URL is. -/
def resource (retriever : Retriever) (r : Registry) (uri : Url) :
    Except ResolutionError Place × Registry :=
  match r.resources.lookup uri with
  | some place => (.ok place, r)
  | none => match r.load retriever uri with
    | (.error e, r) => (.error e, r)
    | (.ok _, r) => (.ok ((r.resources.lookup uri).getD ⟨uri, .root⟩), r)

/-- The place that a fragment names in a resource. -/
def locate (r : Registry) (base : Url) (reference : String) (uri : Url) (fragment : String)
    (resource : Place) : Except ResolutionError Place :=
  match fragment.toList with
  | [] => .ok resource
  | '/' :: _ => match Reference.pointer? fragment with
    | .ok p => .ok { resource with pointer := resource.pointer ++ p }
    | .error fault => .error (.invalidReference base reference fault)
  | _ => match r.anchors.lookup (uri, fragment) with
    | some place => .ok place
    | none => .error (.anchorNotFound uri fragment)

/-- The target at a place. -/
def target (retriever : Retriever) (r : Registry) (place : Place) :
    Except ResolutionError Target × Registry :=
  match r.load retriever place.document with
  | (.error e, r) => (.error e, r)
  | (.ok d, r) => match d.contents.at? place.pointer with
    | none => (.error (.pointerNotFound place.document place.pointer), r)
    | some contents => ((d.baseAt place.pointer).map fun base =>
        ⟨place.document, place.pointer, base, contents⟩, r)

/-- What a reference at a base leads to. -/
def resolve (retriever : Retriever) (r : Registry) (base : Url) (reference : String) :
    Except ResolutionError Target × Registry :=
  match base.join reference with
  | .error e => (.error (.invalidReference base reference (.url e)), r)
  | .ok url =>
    let uri := url.withoutFragment
    match r.resource retriever uri with
    | (.error e, r) => (.error e, r)
    | (.ok resource, r) => match r.locate base reference uri (url.fragment.getD "") resource with
      | .error e => (.error e, r)
      | .ok place => r.target retriever place

end Registry
end JsonSchema
