import JsonSchema.Unicode.Folding
import JsonSchema.Unicode.Named

/-!
# Character classes of expressions

The classes that an expression names: those of ASCII in brackets and colons, and the three with a
letter of their own. Classes that know the whole of Unicode and classes of ASCII alone are told
apart by the mode in which they stand.
-/

namespace JsonSchema.Regex

/-- The classes of ASCII that are written between brackets and colons. -/
def asciiClass? (name : String) : Option CodeSet :=
  ([("alnum", [(0x30, 0x39), (0x41, 0x5A), (0x61, 0x7A)]),
    ("alpha", [(0x41, 0x5A), (0x61, 0x7A)]),
    ("ascii", [(0x00, 0x7F)]),
    ("blank", [(0x09, 0x09), (0x20, 0x20)]),
    ("cntrl", [(0x00, 0x1F), (0x7F, 0x7F)]),
    ("digit", [(0x30, 0x39)]),
    ("graph", [(0x21, 0x7E)]),
    ("lower", [(0x61, 0x7A)]),
    ("print", [(0x20, 0x7E)]),
    ("punct", [(0x21, 0x2F), (0x3A, 0x40), (0x5B, 0x60), (0x7B, 0x7E)]),
    ("space", [(0x09, 0x0D), (0x20, 0x20)]),
    ("upper", [(0x41, 0x5A)]),
    ("word", [(0x30, 0x39), (0x41, 0x5A), (0x5F, 0x5F), (0x61, 0x7A)]),
    ("xdigit", [(0x30, 0x39), (0x41, 0x46), (0x61, 0x66)])].lookup name).map CodeSet.mk

/-- Word characters within ASCII. -/
def asciiWord : CodeSet := ⟨[(0x30, 0x39), (0x41, 0x5A), (0x5F, 0x5F), (0x61, 0x7A)]⟩

/-- White space within ASCII. -/
def asciiSpace : CodeSet := ⟨[(0x09, 0x0D), (0x20, 0x20)]⟩

/-- Digits within ASCII. -/
def asciiDigit : CodeSet := ⟨[(0x30, 0x39)]⟩

/-- The classes with a letter of their own: digits, white space and word characters. -/
def letterClass? (unicode : Bool) : Char → Option CodeSet
  | 'd' => some (if unicode then Unicode.decimalNumber else asciiDigit)
  | 's' => some (if unicode then Unicode.whiteSpace else asciiSpace)
  | 'w' => some (if unicode then Unicode.wordCharacters else asciiWord)
  | _ => none

end JsonSchema.Regex
