import OfflineChat.Json.Numeral
import OfflineChat.Json.Value

/-! # JSON texts

What stands in a text, before anything is asked of it.  A `Document` keeps the
literals as written, and where the text breaks off or goes wrong it keeps what
came before, so that a reader of values meets the faults of a text and the
faults of its values in reading order.  `Document.ofText` reads a whole text.
-/
namespace OfflineChat

/-- What a text holds where some value was wanted. -/
inductive Found where
  | null
  | bool (b : Bool)
  | int (n : Int)
  | float (x : Binary)
  | str (s : String)
  | sequence
  | map
deriving DecidableEq, Repr

/-- How the members of an object end. -/
inductive Ending where
  /-- With the closing brace. -/
  | closed
  /-- With a fault; what stands where a key was wanted, if that is a value and no text. -/
  | cut (instead : Option Found)
deriving DecidableEq, Repr

/-- A value as it stands in a text. -/
inductive Document where
  | null
  | bool (b : Bool)
  | number (n : Numeral)
  /-- A text; `none` if an escape names half of a surrogate pair. -/
  | str (s : Option String)
  /-- Items, and whether the closing bracket follows them. -/
  | arr (items : List Document) (closed : Bool)
  /-- Members, and what follows them. -/
  | obj (members : List (Option String × Document)) (ending : Ending)
  /-- No value can be read here. -/
  | broken
deriving Inhabited, Repr

namespace Document

/-- The blanks between the parts of a text. -/
def isGap (c : Char) : Bool := c == ' ' || c == '\n' || c == '\t' || c == '\r'

/-- Drop the blanks at the front. -/
def skipGaps (cs : List Char) : List Char := cs.dropWhile isGap

/-- The value of a hexadecimal digit. -/
def hexValue? (c : Char) : Option Nat :=
  if '0' ≤ c ∧ c ≤ '9' then some (c.toNat - '0'.toNat)
  else if 'a' ≤ c ∧ c ≤ 'f' then some (c.toNat - 'a'.toNat + 10)
  else if 'A' ≤ c ∧ c ≤ 'F' then some (c.toNat - 'A'.toNat + 10)
  else none

/-- The code unit of four hexadecimal digits. -/
def unit? (a b c d : Char) : Option Nat := do
  pure ((((← hexValue? a) * 16 + (← hexValue? b)) * 16 + (← hexValue? c)) * 16 + (← hexValue? d))

/-- The first half of a surrogate pair. -/
def isHigh (u : Nat) : Bool := decide (0xD800 ≤ u) && decide (u ≤ 0xDBFF)

/-- The second half of a surrogate pair. -/
def isLow (u : Nat) : Bool := decide (0xDC00 ≤ u) && decide (u ≤ 0xDFFF)

/-- The character of a surrogate pair. -/
def ofPair (high low : Nat) : Char :=
  Char.ofNat (0x10000 + (high - 0xD800) * 0x400 + (low - 0xDC00))

/-- The character an escape of one letter stands for. -/
def simpleEscape? (c : Char) : Option Char :=
  match c with
  | '"' => some '"'
  | '\\' => some '\\'
  | '/' => some '/'
  | 'b' => some '\x08'
  | 'f' => some '\x0C'
  | 'n' => some '\n'
  | 'r' => some '\r'
  | 't' => some '\t'
  | _ => none

/-- A part of a string literal: a character, or the code unit an escape names. -/
inductive Piece where
  | char (c : Char)
  | unit (u : Nat)
deriving DecidableEq, Repr

/-- Put a piece in front of those of a literal. -/
def consPiece (p : Piece) (r : Option (List Piece × List Char)) : Option (List Piece × List Char) :=
  r.map fun q => (p :: q.1, q.2)

/-- The pieces of a string literal after its opening quote, and what follows it; `none` if it
does not end or holds a raw control character or an unknown escape. -/
def pieces : List Char → Option (List Piece × List Char)
  | [] => none
  | '"' :: rest => some ([], rest)
  | '\\' :: 'u' :: a :: b :: c :: d :: rest =>
    match unit? a b c d with
    | some u => consPiece (.unit u) (pieces rest)
    | none => none
  | '\\' :: c :: rest =>
    match simpleEscape? c with
    | some x => consPiece (.char x) (pieces rest)
    | none => none
  | c :: rest => if c.toNat < 0x20 ∨ c = '\\' then none else consPiece (.char c) (pieces rest)

/-- The characters of pieces, two halves of a surrogate pair making one; `none` if a half stands
alone. -/
def assemble : List Piece → Option (List Char)
  | [] => some []
  | .char c :: rest => (assemble rest).map (c :: ·)
  | .unit u :: .unit v :: rest =>
    if isLow u then none
    else if isHigh u then
      if isLow v then (assemble rest).map (ofPair u v :: ·) else none
    else (assemble (.unit v :: rest)).map (Char.ofNat u :: ·)
  | .unit u :: rest =>
    if isLow u || isHigh u then none else (assemble rest).map (Char.ofNat u :: ·)

/-- A string literal after its opening quote: its text, if it has one, and what follows it. -/
def literal (cs : List Char) : Option (Option String × List Char) :=
  (pieces cs).map fun r => ((assemble r.1).map String.ofList, r.2)

/-- Whether the value ends where its text says, so that reading can go on behind it. -/
def complete : Document → Bool
  | .arr _ closed => closed
  | .obj _ ending => ending == .closed
  | .broken => false
  | _ => true

/-- What the value is, where a value of another kind was wanted; `none` if no value can be read. -/
def found? : Document → Option Found
  | .null => some .null
  | .bool b => some (.bool b)
  | .number n => n.value?.map fun
    | .int i => .int i
    | .float x => .float x
  | .str s => s.map .str
  | .arr .. => some .sequence
  | .obj .. => some .map
  | .broken => none

mutual

/-- Read a value, after any blanks, and give what follows it. -/
def value : Nat → List Char → Document × List Char
  | 0, cs => (.broken, cs)
  | fuel + 1, cs =>
    match skipGaps cs with
    | 'n' :: 'u' :: 'l' :: 'l' :: rest => (.null, rest)
    | 't' :: 'r' :: 'u' :: 'e' :: rest => (.bool true, rest)
    | 'f' :: 'a' :: 'l' :: 's' :: 'e' :: rest => (.bool false, rest)
    | '"' :: rest =>
      match literal rest with
      | some (s, rest') => (.str s, rest')
      | none => (.broken, rest)
    | '[' :: rest =>
      match skipGaps rest with
      | ']' :: rest' => (.arr [] true, rest')
      | _ =>
        let r := items fuel rest
        (.arr r.1 r.2.1, r.2.2)
    | '{' :: rest =>
      match skipGaps rest with
      | '}' :: rest' => (.obj [] .closed, rest')
      | _ =>
        let r := members fuel rest
        (.obj r.1 r.2.1, r.2.2)
    | rest =>
      match Numeral.scan rest with
      | some (n, rest') => (.number n, rest')
      | none => (.broken, rest)

/-- Read an item and those after it: the items, whether the bracket closes, what follows. -/
def items : Nat → List Char → List Document × Bool × List Char
  | 0, cs => ([], false, cs)
  | fuel + 1, cs =>
    let v := value fuel cs
    if v.1.complete then
      match skipGaps v.2 with
      | ']' :: rest => ([v.1], true, rest)
      | ',' :: rest =>
        match skipGaps rest with
        | ']' :: _ => ([v.1], false, rest)
        | [] => ([v.1], false, rest)
        | _ =>
          let r := items fuel rest
          (v.1 :: r.1, r.2.1, r.2.2)
      | rest => ([v.1], false, rest)
    else ([v.1], false, v.2)

/-- Read a member and those after it: the members, how they end, what follows. -/
def members : Nat → List Char → List (Option String × Document) × Ending × List Char
  | 0, cs => ([], .cut none, cs)
  | fuel + 1, cs =>
    match skipGaps cs with
    | '"' :: rest =>
      match literal rest with
      | none => ([], .cut none, rest)
      | some (key, rest) =>
        match skipGaps rest with
        | ':' :: rest =>
          let v := value fuel rest
          if v.1.complete then
            match skipGaps v.2 with
            | '}' :: rest => ([(key, v.1)], .closed, rest)
            | ',' :: rest =>
              match skipGaps rest with
              | '"' :: _ =>
                let r := members fuel rest
                ((key, v.1) :: r.1, r.2.1, r.2.2)
              | _ => ([(key, v.1)], .cut none, rest)
            | rest => ([(key, v.1)], .cut none, rest)
          else ([(key, v.1)], .cut none, v.2)
        | rest => ([(key, .broken)], .cut none, rest)
    | rest => ([], .cut (value fuel rest).1.found?, rest)

end

/-- Read a whole text: the value it starts with, and whether only blanks follow it. -/
def ofText (s : String) : Document × Bool :=
  let r := value (2 * s.toList.length + 2) s.toList
  (r.1, (skipGaps r.2).isEmpty)

mutual

/-- The document a written value reads as. -/
def ofJson : Json → Document
  | .null => .null
  | .bool b => .bool b
  | .int n => .number ⟨decide (n < 0), Nat.toDigits 10 n.natAbs, [], none⟩
  | .float f x =>
    match Numeral.scan (Json.floatChars f x) with
    | some (n, _) => .number n
    | none => .null
  | .str s => .str (some s)
  | .arr items => .arr (ofItems items) true
  | .obj members => .obj (ofMembers members) .closed

/-- The documents of items. -/
def ofItems : List Json → List Document
  | [] => []
  | v :: rest => ofJson v :: ofItems rest

/-- The documents of members. -/
def ofMembers : List (String × Json) → List (Option String × Document)
  | [] => []
  | (k, v) :: rest => (some k, ofJson v) :: ofMembers rest

end

end Document
end OfflineChat
