import JsonSchema.Pointer.Basic
import JsonSchema.Url.Basic

/-!
# Schema locations
-/

namespace JsonSchema

/-- Where a schema or a keyword stands: its document and the pointer to it. -/
structure SchemaLocation where
  document : Url
  pointer : Pointer
  deriving DecidableEq, Repr

namespace SchemaLocation

instance : Inhabited SchemaLocation := ⟨⟨default, .root⟩⟩

/-- The document's URL with the pointer as its fragment. -/
def absolute (l : SchemaLocation) : String := (l.document.withFragment l.pointer.text).text

end SchemaLocation
end JsonSchema
