import JsonSchema.Registry.Declaration

/-!
# The registry of documents

A registry keeps documents under their URLs, and an index of what they declare. What is in it
never changes: the first document under a URL is kept, and so is the first declaration of a name. A
document that is not there yet is asked of a retriever.
-/

namespace JsonSchema

/-- A document, the URL it is kept under, and the base before its own `$id`. -/
structure Document where
  uri : Url
  base : Url
  contents : Value

/-- Where documents are had from. It may answer for any number of URLs. -/
structure Retriever where
  /-- The document at a URL without a fragment. -/
  find? : Url → Option Value := fun _ => none

/-- The retriever of some documents, the latest under a URL first. -/
structure Store where
  documents : List (Url × Value) := []

namespace Store

/-- The document at a URL without a fragment. -/
def find? (s : Store) (uri : Url) : Option Value := s.documents.lookup uri

/-- Serves a document from now on. -/
def serve (s : Store) (uri : Url) (contents : Value) : Store :=
  ⟨(uri.withoutFragment, contents) :: s.documents⟩

/-- A store answers with its documents. -/
def retriever (s : Store) : Retriever := ⟨s.find?⟩

instance : Coe Store Retriever := ⟨retriever⟩

end Store

/-- The documents that were seen, an index of their declarations, and the URLs that a retriever was
asked for, latest first. -/
structure Registry where
  documents : List Document := []
  resources : List (Url × Place) := []
  anchors : List ((Url × String) × Place) := []
  asked : List Url := []

namespace Registry

/-- Adds an entry under a key that has none yet. -/
def addNew {α β : Type} [BEq α] (entries : List (α × β)) (entry : α × β) : List (α × β) :=
  if (entries.lookup entry.1).isSome then entries else entries ++ [entry]

/-- The document kept under a URL without a fragment. -/
def find? (r : Registry) (uri : Url) : Option Document := r.documents.find? (·.uri == uri)

/-- The document kept under a URL, whatever its fragment. -/
def get? (r : Registry) (uri : Url) : Option Document := r.find? uri.withoutFragment

/-- Keeps a document with its declarations. -/
def keep (r : Registry) (d : Document) (declared : Declarations) : Registry :=
  { r with
    documents := r.documents ++ [d]
    resources := declared.resources.foldl addNew (addNew r.resources (d.uri, ⟨d.uri, .root⟩))
    anchors := declared.anchors.foldl addNew r.anchors }

/-- Adds a document that is not there yet; one that declares a malformed `$id` is left out. -/
def add (r : Registry) (d : Document) : Except ResolutionError Document × Registry :=
  match Declarations.ofValue d.base ⟨d.uri, .root⟩ d.contents with
  | .ok declared => (.ok d, r.keep d declared)
  | .error e => (.error e, r)

/-- Keeps a document whose URL came from its own `$id`, which is relative to a base. The first
document under a URL stays. -/
def insertAt (r : Registry) (uri base : Url) (contents : Value) :
    Except ResolutionError Document × Registry :=
  match r.get? uri with
  | some d => (.ok d, r)
  | none => r.add ⟨uri.withoutFragment, base.withoutFragment, contents⟩

/-- Keeps a document under a URL. -/
def insert (r : Registry) (uri : Url) (contents : Value) :
    Except ResolutionError Document × Registry :=
  r.insertAt uri uri contents

/-- The document at a URL: the one that is kept, or else what the retriever has. -/
def load (retriever : Retriever) (r : Registry) (uri : Url) :
    Except ResolutionError Document × Registry :=
  let uri := uri.withoutFragment
  match r.find? uri with
  | some d => (.ok d, r)
  | none =>
    let r := { r with asked := uri :: r.asked }
    match retriever.find? uri with
    | some contents => r.add ⟨uri, uri, contents⟩
    | none => (.error (.unretrievable uri), r)

/-- How much is in the registry. -/
def summary (r : Registry) : String :=
  s!"Registry \x7b documents: {r.documents.length}, resources: {r.resources.length}, " ++
    s!"anchors: {r.anchors.length} \x7d"

end Registry
end JsonSchema
