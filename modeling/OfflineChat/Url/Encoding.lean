import OfflineChat.Text.Utf8

/-! # Percent encoding

Octets written as a percent sign and two hexadecimal digits.  Which characters
are written so depends on the part of the URL they stand in; each set here is
one such part's.  An octet beyond ASCII is written so everywhere.
`percentDecode` reads every such triple back, and leaves a percent sign that
starts none as it is.
-/
namespace OfflineChat
namespace Url

/-- The upper-case hexadecimal digit of a number below sixteen. -/
def hexDigit (n : Nat) : Char := (Nat.digitChar n).toUpper

/-- An octet as a triple. -/
def triple (b : UInt8) : List Char := ['%', hexDigit (b.toNat / 16), hexDigit (b.toNat % 16)]

/-- Control characters. -/
def isControl (c : Char) : Bool := decide (c.toNat < 0x20) || decide (c.toNat = 0x7F)

/-- What a fragment encodes. -/
def inFragment (c : Char) : Bool := isControl c || [' ', '"', '<', '>', '`'].contains c

/-- What a path encodes. -/
def inPath (c : Char) : Bool := inFragment c || ['#', '?', '{', '}'].contains c

/-- What one segment of a path encodes where it is given by itself. -/
def inSegment (c : Char) : Bool := inPath c || c == '/' || c == '%'

/-- The same where the backslash separates segments too. -/
def inSpecialSegment (c : Char) : Bool := inSegment c || c == '\\'

/-- What a user name or password encodes. -/
def inCredentials (c : Char) : Bool :=
  inPath c || ['/', ':', ';', '=', '@', '[', '\\', ']', '^', '|'].contains c

/-- What a query encodes. -/
def inQuery (c : Char) : Bool := isControl c || [' ', '"', '#', '<', '>'].contains c

/-- The same in the URL of a well-known scheme. -/
def inSpecialQuery (c : Char) : Bool := inQuery c || c == '\''

/-- What a form encodes: all but letters, digits and four marks. -/
def inForm (c : Char) : Bool := !(c.isAlphanum || ['*', '-', '.', '_'].contains c)

/-- One character: as triples if it is in the set or beyond ASCII. -/
def encodeChar (set : Char → Bool) (c : Char) : List Char :=
  if c.toNat < 0x80 && !set c then [c] else (String.utf8EncodeChar c).flatMap triple

/-- Characters with those of a set encoded. -/
def percentEncode (set : Char → Bool) (cs : List Char) : List Char := cs.flatMap (encodeChar set)

/-- A value in a form: blanks are plus signs. -/
def formEncode (s : String) : String :=
  String.ofList (s.toList.flatMap fun c => if c = ' ' then ['+'] else encodeChar inForm c)

/-- The value of a hexadecimal digit. -/
def hexValue? (c : Char) : Option Nat :=
  if '0' ≤ c ∧ c ≤ '9' then some (c.toNat - '0'.toNat)
  else if 'a' ≤ c ∧ c ≤ 'f' then some (c.toNat - 'a'.toNat + 10)
  else if 'A' ≤ c ∧ c ≤ 'F' then some (c.toNat - 'A'.toNat + 10)
  else none

/-- The octet a triple stands for. -/
def octetOf? (a b : Char) : Option UInt8 := do
  pure (UInt8.ofNat ((← hexValue? a) * 16 + (← hexValue? b)))

/-- The octets of a text with each triple read as the octet it stands for. -/
def percentDecode : List Char → List UInt8
  | [] => []
  | '%' :: a :: b :: rest =>
    match octetOf? a b with
    | some x => x :: percentDecode rest
    | none => String.utf8EncodeChar '%' ++ percentDecode (a :: b :: rest)
  | c :: rest => String.utf8EncodeChar c ++ percentDecode rest

end Url
end OfflineChat
