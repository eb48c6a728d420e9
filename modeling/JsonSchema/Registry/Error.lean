import JsonSchema.Pointer.Basic
import JsonSchema.Url.Basic
import JsonSchema.Url.Error

/-!
# Why a reference leads nowhere
-/

namespace JsonSchema

/-- What is wrong with the text of a reference. -/
inductive ReferenceFault
  | url (e : UrlError)
  | notUtf8
  | notPointer (text : String)
  deriving DecidableEq, Repr

/-- The wording of the fault. -/
def ReferenceFault.message : ReferenceFault → String
  | url e => e.message
  | notUtf8 => "fragment is not valid UTF-8"
  | notPointer text => Pointer.invalidMessage text

/-- Why a document or the target of a reference was not found. -/
inductive ResolutionError
  /-- There is no document at the URL. -/
  | unretrievable (uri : Url)
  /-- The document has nothing at the pointer. -/
  | pointerNotFound (uri : Url) (pointer : Pointer)
  /-- The resource declares no such name. -/
  | anchorNotFound (uri : Url) (anchor : String)
  /-- Another document is already kept under the URL. -/
  | conflict (uri : Url)
  /-- The text is no reference. -/
  | invalidReference (base : Url) (reference : String) (fault : ReferenceFault)
  deriving DecidableEq, Repr

/-- The wording of the error. -/
def ResolutionError.message : ResolutionError → String
  | unretrievable uri => s!"cannot retrieve schema document '{uri.text}'"
  | pointerNotFound uri pointer => s!"pointer '{pointer.text}' does not resolve in '{uri.text}'"
  | anchorNotFound uri anchor => s!"anchor '{anchor}' is not declared in '{uri.text}'"
  | conflict uri => s!"a different schema document is already registered as '{uri.text}'"
  | invalidReference base reference fault =>
    s!"invalid reference '{reference}' against base '{base.text}': {fault.message}"

end JsonSchema
