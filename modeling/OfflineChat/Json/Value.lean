import OfflineChat.Number.Shortest

/-! # JSON values

The value type, and its two written forms: `Json.render` on one line and
`Json.pretty` with two blanks of indentation for each level.  Both are built
from `Json.chars`-like functions on lists of characters, so that the reader's
theory can speak about what follows a written value.
-/
namespace OfflineChat

/-- A JSON value.  Members stand in the order they are written. -/
inductive Json where
  | null
  | bool (b : Bool)
  | int (n : Int)
  /-- A number with a fraction, written with the fewest digits that name it in its format. -/
  | float (format : BinaryFormat) (x : Binary)
  | str (s : String)
  | arr (items : List Json)
  | obj (members : List (String × Json))
deriving Inhabited, Repr

namespace Json

/-- The digit of a number below sixteen, in lower case. -/
def hexDigit (n : Nat) : Char := Nat.digitChar n

/-- A character inside a string literal: the quote, the backslash and the control characters are
escaped, everything else stands for itself. -/
def escapeChar (c : Char) : List Char :=
  if c = '"' then ['\\', '"']
  else if c = '\\' then ['\\', '\\']
  else if c = '\x08' then ['\\', 'b']
  else if c = '\x09' then ['\\', 't']
  else if c = '\x0A' then ['\\', 'n']
  else if c = '\x0C' then ['\\', 'f']
  else if c = '\x0D' then ['\\', 'r']
  else if c.toNat < 0x20 then
    ['\\', 'u', '0', '0', hexDigit (c.toNat / 16), hexDigit (c.toNat % 16)]
  else [c]

/-- A string literal. -/
def literalChars (s : String) : List Char :=
  '"' :: s.toList.flatMap escapeChar ++ ['"']

/-- An integer in decimal. -/
def intChars (n : Int) : List Char :=
  if n < 0 then '-' :: Nat.toDigits 10 n.natAbs else Nat.toDigits 10 n.natAbs

/-- A number with a fraction; an infinity and no number have no form of their own. -/
def floatChars (f : BinaryFormat) (x : Binary) : List Char :=
  if x.isFinite then (Shortest.scientific f x).toList else ['n', 'u', 'l', 'l']

mutual

/-- The value on one line. -/
def chars : Json → List Char
  | .null => ['n', 'u', 'l', 'l']
  | .bool true => ['t', 'r', 'u', 'e']
  | .bool false => ['f', 'a', 'l', 's', 'e']
  | .int n => intChars n
  | .float f x => floatChars f x
  | .str s => literalChars s
  | .arr items => '[' :: itemChars items ++ [']']
  | .obj members => '{' :: memberChars members ++ ['}']

/-- Items with commas between them. -/
def itemChars : List Json → List Char
  | [] => []
  | [v] => chars v
  | v :: w :: rest => chars v ++ ',' :: itemChars (w :: rest)

/-- Members with commas between them. -/
def memberChars : List (String × Json) → List Char
  | [] => []
  | [(k, v)] => literalChars k ++ ':' :: chars v
  | (k, v) :: m :: rest => literalChars k ++ ':' :: chars v ++ ',' :: memberChars (m :: rest)

end

/-- The value on one line. -/
def render (j : Json) : String := String.ofList j.chars

/-- A new line, indented by two blanks for each level. -/
def newline (level : Nat) : String := "\n" ++ String.ofList (List.replicate (2 * level) ' ')

mutual

/-- The value over several lines, the outermost bracket being at the given level. -/
def prettyAt (level : Nat) : Json → String
  | .arr [] => "[]"
  | .arr (v :: rest) =>
    "[" ++ newline (level + 1) ++ prettyAt (level + 1) v ++ prettyItems (level + 1) rest ++
      newline level ++ "]"
  | .obj [] => "\x7b\x7d"
  | .obj ((k, v) :: rest) =>
    "\x7b" ++ newline (level + 1) ++ String.ofList (literalChars k) ++ ": " ++
      prettyAt (level + 1) v ++ prettyMembers (level + 1) rest ++ newline level ++ "\x7d"
  | v => v.render

/-- The items after the first. -/
def prettyItems (level : Nat) : List Json → String
  | [] => ""
  | v :: rest => "," ++ newline level ++ prettyAt level v ++ prettyItems level rest

/-- The members after the first. -/
def prettyMembers (level : Nat) : List (String × Json) → String
  | [] => ""
  | (k, v) :: rest =>
    "," ++ newline level ++ String.ofList (literalChars k) ++ ": " ++ prettyAt level v ++
      prettyMembers level rest

end

/-- The value over several lines. -/
def pretty (j : Json) : String := prettyAt 0 j

/-- A text or the null value. -/
def ofOption {α : Type} (f : α → Json) : Option α → Json
  | none => .null
  | some a => f a

end Json
end OfflineChat
