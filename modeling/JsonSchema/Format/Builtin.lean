import JsonSchema.Format.DateTime
import JsonSchema.Format.Duration
import JsonSchema.Format.Email
import JsonSchema.Format.IntegerRange
import JsonSchema.Pointer.Basic
import JsonSchema.Regex.Parse
import JsonSchema.Url.Resolve

/-!
# Built-in formats
-/

namespace JsonSchema

/-- The base of schemas that have no place of their own. -/
def Url.ownBase : Url :=
  { scheme := "json-schema", authority := some {}, path := "/" }

namespace Format

/-- White space or a control character. -/
def isBlankOrControl (c : Char) : Bool :=
  Unicode.whiteSpace.contains c || Unicode.control.contains c

/-- Whether a text is a URI. -/
def isUri (s : String) : Bool :=
  !s.toList.any isBlankOrControl && (Url.parse s).toBool

/-- Whether a text is a URI, or a reference relative to one. -/
def isUriReference (s : String) : Bool :=
  !s.toList.any (fun c => isBlankOrControl c || c = '\\') &&
    ((Url.parse s).toBool || (Url.ownBase.join s).toBool)

/-- Whether a text is a UUID: hexadecimal digits in groups of 8, 4, 4, 4 and 12. -/
def isUuid (s : String) : Bool :=
  let cs := s.toList
  cs.length == 36 &&
    cs.zipIdx.all fun (c, i) => if [8, 13, 18, 23].contains i then c = '-' else isHexDigit c

/-- Whether a text is a JSON Pointer. -/
def isJsonPointer (s : String) : Bool := (Pointer.ofText? s).isSome

/-- Whether a text is a relative JSON Pointer: how far to go up, and then a number sign or a JSON
Pointer. -/
def isRelativeJsonPointer (s : String) : Bool :=
  let cs := s.toList
  let digits := digitsOf cs
  let rest := cs.drop digits.length
  !digits.isEmpty && (digits.length == 1 || cs.head? != some '0') &&
    (rest = ['#'] || isJsonPointer (String.ofList rest))

/-- Whether a text is a regular expression. -/
def isRegex (s : String) : Bool := (Regex.parse? s).isSome

/-- Punctuation of ASCII. -/
def punctuation : CodeSet := ⟨[(0x21, 0x2F), (0x3A, 0x40), (0x5B, 0x60), (0x7B, 0x7E)]⟩

/-- The characters of Persian text: the Arabic block, two joining marks, white space, digits and
punctuation. -/
def persian : CodeSet :=
  (CodeSet.unions [⟨[(0x30, 0x39), (0x600, 0x6FF), (0x200C, 0x200C), (0x200F, 0x200F)]⟩,
    punctuation, Unicode.whiteSpace])

/-- The characters of English text: the printable ones of ASCII, and white space. -/
def english : CodeSet := CodeSet.union ⟨[(0x20, 0x7E)]⟩ Unicode.whiteSpace

/-- Whether all characters of a text are in a set. -/
def isWrittenIn (set : CodeSet) (s : String) : Bool := s.toList.all set.contains

/-- The built-in formats, sorted by name. -/
def builtins : List Format :=
  [ofPredicate "date" isDate,
    ofPredicate "date-time" isDateTime,
    ofPredicate "duration" isDuration,
    ofPredicate "email" isEmail,
    ofPredicate "englishString" (isWrittenIn english),
    ofPredicate "hostname" isHostname,
    ofNumberCheck "int32" IntegerRange.int32.check,
    ofNumberCheck "int64" IntegerRange.int64.check,
    ofPredicate "ipv4" Address.isIpv4,
    ofPredicate "ipv6" Address.isIpv6,
    ofPredicate "json-pointer" isJsonPointer,
    ofPredicate "persianString" (isWrittenIn persian),
    ofPredicate "regex" isRegex,
    ofPredicate "relative-json-pointer" isRelativeJsonPointer,
    ofPredicate "time" isTime,
    ofPredicate "uri" isUri,
    ofPredicate "uri-reference" isUriReference,
    ofPredicate "uuid" isUuid]

/-- The built-in format with a given name. -/
def builtin? (name : String) : Option Format := builtins.find? (·.name == name)

end Format
end JsonSchema
