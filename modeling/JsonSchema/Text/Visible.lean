import JsonSchema.Unicode.Named

/-!
# Literals with every character visible

A text between quotes in which a character that leaves no mark of its own is written by its code
point.
-/

namespace JsonSchema

/-- The characters that leave no mark of their own: controls, separators, and what is not assigned,
as well as those that only extend the character before them. -/
def unmarked : CodeSet :=
  CodeSet.unions (((["Cc", "Cf", "Cs", "Co", "Cn", "Zl", "Zp", "Zs"]).map Unicode.category) ++
    [(Unicode.propertyNamed? "graphemeextend").getD .empty])

/-- A character as it is written between quotes. -/
def visibleChar (c : Char) : List Char :=
  match c with
  | '\x00' => ['\\', '0']
  | '\t' => ['\\', 't']
  | '\r' => ['\\', 'r']
  | '\n' => ['\\', 'n']
  | '"' => ['\\', '"']
  | '\\' => ['\\', '\\']
  | ' ' => [' ']
  | c => if unmarked.contains c then '\\' :: 'u' :: '\x7b' :: Nat.toDigits 16 c.toNat ++ ['\x7d']
    else [c]

/-- A text between quotes with every character visible. -/
def visible (s : String) : String :=
  String.ofList ('"' :: s.toList.flatMap visibleChar ++ ['"'])

end JsonSchema
