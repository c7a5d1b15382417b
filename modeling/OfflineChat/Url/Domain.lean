import OfflineChat.Text.Split
import OfflineChat.Text.Case
import OfflineChat.Text.Utf8
import OfflineChat.Url.NameTables
import OfflineChat.Url.Punycode

/-! # Domain names

A domain name in any script as the name that is looked up, after the rules of
Unicode for names in many scripts (UTS #46, RFC 5892, RFC 5893).  Characters that
stand for others are read as those, marks come together with what they follow, and
each label with a character beyond ASCII is looked up in its written form after
`xn--`.  A name that has no such form is refused: one that holds a character of no
name, a label that starts with a mark or is joined where scripts do not join, and
a name in two directions whose labels do not keep to one each.
-/
namespace OfflineChat
namespace Domain

/-- Whether a character is one of ASCII. -/
def isAscii (c : Char) : Bool := decide (c.toNat < 0x80)

/-! ## What a name is read as -/

/-- What a character stands for by the table. -/
def respelling? (c : Char) : Option (List Char) :=
  respelled.findSome? fun (first, words) =>
    if first ≤ c.toNat then (Text.splitOn ' ' words.toList)[c.toNat - first]? else none

/-- What a character of a name is read as. -/
def mapChar (c : Char) : List Char :=
  if Text.inRanges c.toNat ignored then []
  else (respelling? c).getD [Text.lowerChar c]

/-- The class by which marks in a row are ordered; 0 for what keeps its place. -/
def markClass (c : Char) : Nat :=
  ((markClasses.find? fun (_, ranges) => Text.inRanges c.toNat ranges).map (·.1)).getD 0

/-- The Korean syllable of two characters. -/
def syllable? (a b : Char) : Option Char :=
  let m := a.toNat
  let n := b.toNat
  if 0x1100 ≤ m ∧ m ≤ 0x1112 ∧ 0x1161 ≤ n ∧ n ≤ 0x1175 then
    some (Char.ofNat (0xAC00 + ((m - 0x1100) * 21 + (n - 0x1161)) * 28))
  else if 0xAC00 ≤ m ∧ m ≤ 0xD7A3 ∧ (m - 0xAC00) % 28 = 0 ∧ 0x11A8 ≤ n ∧ n ≤ 0x11C2 then
    some (Char.ofNat (m + (n - 0x11A7)))
  else none

/-- What a character becomes together with one after it. -/
def composite? (a b : Char) : Option Char :=
  (syllable? a b).or <| composites.findSome? fun (mark, bases, wholes) =>
    if mark = b.toNat then (bases.toList.zip wholes.toList).lookup a else none

/-- A character without the last of its marks, and that mark. -/
def parts (c : Char) : List Char :=
  let found := composites.findSome? fun (mark, bases, wholes) =>
    ((wholes.toList.zip bases.toList).lookup c).map fun base => [base, Char.ofNat mark]
  found.getD [c]

/-- Put a character in front of others, behind the marks there that come before it. -/
def place (c : Char) : List Char → List Char
  | [] => [c]
  | d :: rest =>
    if 0 < markClass d ∧ markClass d < markClass c then d :: place c rest else c :: d :: rest

/-- Bring what follows a character together with it as far as it goes; `marks` are those in
between that stay. -/
def composeFrom (base : Char) (marks : List Char) : List Char → List Char
  | [] => base :: marks
  | c :: rest =>
    let reaches := marks.getLast?.all (markClass · < markClass c)
    match if reaches then composite? base c else none with
    | some whole => composeFrom whole marks rest
    | none =>
      if markClass c = 0 then base :: marks ++ composeFrom c [] rest
      else composeFrom base (marks ++ [c]) rest

/-- A text with its marks in their order and together with what they follow. -/
def compose (cs : List Char) : List Char :=
  -- no composite of the table has more than two marks
  let ordered := ((cs.flatMap parts).flatMap parts).foldr place []
  let leading := ordered.takeWhile (markClass · != 0)
  match ordered.drop leading.length with
  | [] => leading
  | base :: rest => leading ++ composeFrom base [] rest

/-- What a text of a name is read as. -/
def normal (cs : List Char) : List Char :=
  if cs.all isAscii then cs.map Char.toLower else compose (cs.flatMap mapChar)

/-! ## Which labels there are -/

/-- ASCII characters that no name holds. -/
def isDenied (c : Char) : Bool :=
  decide (c.toNat ≤ 0x20) || decide (c.toNat = 0x7F) ||
    ['%', '#', '/', ':', '<', '>', '?', '@', '[', '\\', ']', '^', '|'].contains c

/-- Whether a character may stand in a label. -/
def isAllowed (c : Char) : Bool :=
  if isAscii c then !isDenied c else !Text.inRanges c.toNat refused

/-- Whether a character is a mark. -/
def isMark (c : Char) : Bool :=
  Text.inRanges c.toNat nonspacing || Text.inRanges c.toNat spacing

/-- Whether the first character that takes part in joining is in the ranges. -/
def meets (ranges : List (Nat × Nat)) (cs : List Char) : Bool :=
  match cs.dropWhile fun c => Text.inRanges c.toNat nonspacing || c.toNat == 0x1E94B with
  | c :: _ => Text.inRanges c.toNat ranges
  | [] => false

/-- Whether joiners stand where scripts use them: after the mark that takes a vowel away, or, to
keep apart, between characters that would join.  `before` is what precedes, the last first. -/
def joinersFit (before : List Char) : List Char → Bool
  | [] => true
  | c :: rest =>
    let fits :=
      match before with
      | [] => false
      | p :: _ =>
        markClass p == 9 || (c == '\u200C' && meets joinsOn before && meets joinsBack rest)
    (fits || (c != '\u200C' && c != '\u200D')) && joinersFit (c :: before) rest

/-- What a written label starts with. -/
def mark : List Char := "xn--".toList

/-- Whether a text that has been read is a label in its own script; one that has to be written has
at most a thousand characters. -/
def isLabel (label : List Char) : Bool :=
  label.all isAllowed && !(label.head?.any isMark) && joinersFit [] label &&
    !mark.isPrefixOf label && (label.all isAscii || label.length ≤ 1000)

/-- A label in its own script, and in the form that is looked up. -/
structure Label where
  spoken : List Char
  written : List Char

/-- The label that a text is.  A written one has at most two thousand characters after `mark`, and
stands for a text that is read as itself. -/
def label? (label : List Char) : Option Label :=
  match if label.all isAscii then mark.isPrefixOf? label else none with
  | some written => do
    let spoken ← if written.length ≤ 2000 then Punycode.decode written else none
    if !spoken.all isAscii && isLabel spoken && normal spoken == spoken then
      some ⟨spoken, label⟩
    else none
  | none =>
    if isLabel label then
      some ⟨label, if label.all isAscii then label else mark ++ Punycode.encode label⟩
    else none

/-! ## Directions -/

/-- The way a character runs, as far as labels go. -/
inductive Direction where
  | left
  | right
  | digit
  | arabicNumber
  | mark
  | neutral
  deriving DecidableEq, Repr

/-- The way a character runs. -/
def direction (c : Char) : Direction :=
  let n := c.toNat
  if c.isAlpha then .left
  else if c.isDigit || Text.inRanges n digits then .digit
  else if isAscii c || Text.inRanges n undirected then .neutral
  else if Text.inRanges n rightToLeft then .right
  else if Text.inRanges n arabicNumbers then .arabicNumber
  else if Text.inRanges n nonspacing && !Text.inRanges n leftMarks then .mark
  else .left

/-- Whether a character makes a name one of two directions. -/
def runsRight (c : Char) : Bool := [.right, .arabicNumber].contains (direction c)

/-- Whether a label of a name of two directions keeps to one. -/
def keepsDirection (label : List Char) : Bool :=
  let ways := label.map direction
  let last := ways.reverse.find? (· != .mark)
  match ways.head? with
  | none => true
  | some .left =>
    !ways.contains .right && !ways.contains .arabicNumber &&
      last.any [Direction.left, .digit].contains
  | some .right =>
    !ways.contains .left && last.any [Direction.right, .digit, .arabicNumber].contains &&
      !(ways.contains .digit && ways.contains .arabicNumber)
  | some _ => false

/-- The looked-up form of a name given by its octets. -/
def ofOctets? (octets : List UInt8) : Option String := do
  let name ← Text.decode? octets
  let labels ← (Text.splitOn '.' (normal name.toList)).mapM label?
  if (labels.any (·.spoken.any runsRight)) && !labels.all (keepsDirection ·.spoken) then none
  else pure (String.intercalate "." (labels.map (String.ofList ·.written)))

end Domain
end OfflineChat
