/-! # Places in a YAML text

A cursor is what is left of a text together with the place where it starts.  A
fault names the place where the text goes wrong and, where there is one, the
thing that was being read and where that starts.
-/
namespace OfflineChat
namespace Yaml

/-- A place in a text: characters before it, lines before it, and characters before it in its
line. -/
structure Mark where
  index : Nat
  line : Nat
  column : Nat
deriving DecidableEq, Repr, Inhabited

namespace Mark

/-- The start of a text. -/
def start : Mark := ⟨0, 0, 0⟩

/-- Whether nothing stands before the place. -/
def isStart (m : Mark) : Bool := m.line == 0 && m.column == 0

/-- The place as people count it. -/
def text (m : Mark) : String :=
  " at line " ++ toString (m.line + 1) ++ " column " ++ toString (m.column + 1)

end Mark

/-- What was being read when a text went wrong, and where it starts. -/
structure Activity where
  name : String
  place : Mark
deriving DecidableEq, Repr

/-- Why a text is no YAML. -/
inductive Fault where
  /-- A character stands there that no text holds; how many octets stand before it. -/
  | badCharacter (octets : Nat)
  | malformed (problem : String) (place : Mark) (during : Option Activity)
  /-- An alias stands there for a node that no anchor names. -/
  | unknownAnchor (place : Mark)
deriving DecidableEq, Repr

namespace Fault

/-- The wording of a place, unless it is the start. -/
def placeText (m : Mark) : String := if m.isStart then "" else m.text

/-- The wording of a fault. -/
def message : Fault → String
  | .badCharacter octets => "control characters are not allowed" ++
      (if octets = 0 then "" else " at position " ++ toString octets)
  | .unknownAnchor place => "unknown anchor" ++ placeText place
  | .malformed problem place during => problem ++ placeText place ++
      match during with
      | none => ""
      | some a => ", " ++ a.name ++ (if a.place = place then "" else placeText a.place)

end Fault

/-- What is left of a text, and where it starts. -/
structure Cursor where
  rest : List Char
  mark : Mark
deriving Inhabited, Repr

/-- Characters that end a line. -/
def isBreak (c : Char) : Bool :=
  c == '\n' || c == '\r' || c == '\u0085' || c == '\u2028' || c == '\u2029'

/-- Blanks within a line. -/
def isSpace (c : Char) : Bool := c == ' ' || c == '\t'

namespace Cursor

/-- The cursor at the start of a text. -/
def ofText (s : String) : Cursor := ⟨s.toList, .start⟩

/-- The character at a distance. -/
def at? (c : Cursor) (n : Nat) : Option Char := c.rest[n]?

/-- Whether a character stands at a distance. -/
def has (c : Cursor) (x : Char) (n : Nat) : Bool := c.at? n == some x

/-- Whether a blank, a line break or the end of the text is at a distance. -/
def gapAt (c : Cursor) (n : Nat) : Bool :=
  match c.at? n with
  | none => true
  | some x => isSpace x || isBreak x

/-- Whether a line break or the end of the text is here. -/
def lineEnds (c : Cursor) : Bool :=
  match c.at? 0 with
  | none => true
  | some x => isBreak x

/-- Whether the text starts with a line break. -/
def atBreak (c : Cursor) : Bool := (c.at? 0).any isBreak

/-- Whether the text starts with a blank. -/
def atSpace (c : Cursor) : Bool := (c.at? 0).any isSpace

/-- Go past characters of one line. -/
def skip (c : Cursor) (n : Nat) : Cursor :=
  let n := (c.rest.take n).length
  ⟨c.rest.drop n, { c.mark with index := c.mark.index + n, column := c.mark.column + n }⟩

/-- Go past the characters of a class, of one line. -/
def skipWhile (c : Cursor) (p : Char → Bool) : Cursor := c.skip (c.rest.takeWhile p).length

/-- Go past the rest of the line. -/
def toLineEnd (c : Cursor) : Cursor := c.skipWhile (!isBreak ·)

/-- Read a line break: what it stands for, and the cursor at the next line. -/
def line (c : Cursor) : List Char × Cursor :=
  let next (n : Nat) (rest : List Char) : Cursor := ⟨rest, c.mark.index + n, c.mark.line + 1, 0⟩
  match c.rest with
  | '\r' :: '\n' :: rest => (['\n'], next 2 rest)
  | '\r' :: rest => (['\n'], next 1 rest)
  | '\n' :: rest => (['\n'], next 1 rest)
  | '\u0085' :: rest => (['\n'], next 1 rest)
  | '\u2028' :: rest => (['\u2028'], next 1 rest)
  | '\u2029' :: rest => (['\u2029'], next 1 rest)
  | _ => ([], c)

/-- Go past a line break. -/
def nextLine (c : Cursor) : Cursor := c.line.2

/-- More steps than any walk over the text takes. -/
def fuel (c : Cursor) : Nat := c.rest.length + 1

/-- The fault that something goes wrong here while something is being read. -/
def fault (c : Cursor) (problem : String) (during : Activity) : Fault :=
  .malformed problem c.mark (some during)

/-- Whether a line that separates documents starts here. -/
def atDocumentMark (c : Cursor) : Bool :=
  c.mark.column == 0 && c.gapAt 3 &&
    (c.rest.take 3 == ['-', '-', '-'] || c.rest.take 3 == ['.', '.', '.'])

end Cursor
end Yaml
end OfflineChat
