import OfflineChat.Url.Encoding
import OfflineChat.Yaml.Cursor

/-! # Scalars

The written forms of a text in YAML: plain, between single or double quotes, and
as a block of lines.  Blanks and line breaks inside the first three are folded:
a single line break is a blank, and of several the first does not count.
-/
namespace OfflineChat
namespace Yaml

/-- The written form of a scalar. -/
inductive Style where
  | plain
  | quoted
  | literal
  | folded
deriving DecidableEq, Repr

/-- A scalar as it stands in a text. -/
structure Scalar where
  text : String
  style : Style
deriving DecidableEq, Repr

/-! ## Folding -/

/-- What stands between two words: blanks of one line, or line breaks. -/
structure Gap where
  spaces : List Char
  broken : Bool
  first : List Char
  more : List Char

namespace Gap

/-- Nothing between two words. -/
def none : Gap := ⟨[], false, [], []⟩

/-- What a gap stands for. -/
def folded (g : Gap) : List Char :=
  if g.broken then
    if g.first = ['\n'] then (if g.more.isEmpty then [' '] else g.more) else g.first ++ g.more
  else g.spaces

/-- Read blanks and line breaks.  A tab in front of column `indent` ends the walk at once. -/
def read (indent : Nat) : Nat → Gap → Cursor → Except Cursor (Gap × Cursor)
  | 0, g, c => .ok (g, c)
  | fuel + 1, g, c =>
    if c.atSpace then
      if g.broken then
        if c.mark.column < indent ∧ c.has '\t' 0 then .error c
        else read indent fuel g (c.skip 1)
      else read indent fuel { g with spaces := g.spaces ++ c.rest.take 1 } (c.skip 1)
    else if c.atBreak then
      let (b, c) := c.line
      if g.broken then read indent fuel { g with more := g.more ++ b } c
      else read indent fuel { g with spaces := [], broken := true, first := b } c
    else .ok (g, c)

end Gap

/-! ## Quoted scalars -/

/-- The character after a backslash, where it stands for one character. -/
def escapeOf? (c : Char) : Option Char :=
  [('0', '\x00'), ('a', '\x07'), ('b', '\x08'), ('t', '\t'), ('\t', '\t'), ('n', '\n'),
    ('v', '\x0B'), ('f', '\x0C'), ('r', '\r'), ('e', '\x1B'), (' ', ' '), ('"', '"'), ('/', '/'),
    ('\\', '\\'), ('N', '\u0085'), ('_', '\u00A0'), ('L', '\u2028'), ('P', '\u2029')].lookup c

/-- How many digits follow the letter of an escape by number. -/
def escapeDigits? (c : Char) : Option Nat := [('x', 2), ('u', 4), ('U', 8)].lookup c

/-- Read an escape, the cursor being at its backslash. -/
def readEscape (a : Activity) (c : Cursor) : Except Fault (Char × Cursor) :=
  match c.at? 1 with
  | none => .error (c.fault "found unknown escape character" a)
  | some x =>
    match escapeOf? x with
    | some y => .ok (y, c.skip 2)
    | none => match escapeDigits? x with
      | none => .error (c.fault "found unknown escape character" a)
      | some n =>
        let c := c.skip 2
        let ds := c.rest.take n
        match ds.mapM Url.hexValue? with
        | some vs =>
          let v := vs.foldl (fun k d => 16 * k + d) 0
          if ds.length < n then .error (c.fault "did not find expected hexdecimal number" a)
          else if v.isValidChar then .ok (Char.ofNat v, c.skip n)
          else .error (c.fault "found invalid Unicode character escape code" a)
        | none => .error (c.fault "did not find expected hexdecimal number" a)

/-- Read the word at the cursor; whether it ends with an escaped line break, and what follows. -/
def readWord (single : Bool) (a : Activity) :
    Nat → Cursor → Except Fault (List Char × Bool × Cursor)
  | 0, c => .ok ([], false, c)
  | fuel + 1, c =>
    let go (xs : List Char) (c : Cursor) : Except Fault (List Char × Bool × Cursor) :=
      (readWord single a fuel c).map fun r => (xs ++ r.1, r.2)
    match c.at? 0 with
    | none => .ok ([], false, c)
    | some x =>
      if c.gapAt 0 then .ok ([], false, c)
      else if single then
        if x = '\'' then
          if c.has '\'' 1 then go ['\''] (c.skip 2) else .ok ([], false, c)
        else go [x] (c.skip 1)
      else if x = '"' then .ok ([], false, c)
      else if x = '\\' then
        if (c.at? 1).any isBreak then .ok ([], true, (c.skip 1).nextLine)
        else do
          let (y, c) ← readEscape a c
          go [y] c
      else go [x] (c.skip 1)

/-- Read the words of a quoted scalar up to its closing quote. -/
def readWords (single : Bool) (start : Mark) :
    Nat → Cursor → Except Fault (List Char × Cursor)
  | 0, c => .ok ([], c)
  | fuel + 1, c => do
    let scanning : Activity := ⟨"while scanning a quoted scalar", start⟩
    if c.atDocumentMark then throw (c.fault "found unexpected document indicator" scanning)
    if c.rest.isEmpty then throw (c.fault "found unexpected end of stream" scanning)
    let (word, escaped, c) ← readWord single ⟨"while parsing a quoted scalar", start⟩ c.fuel c
    if c.has (if single then '\'' else '"') 0 then pure (word, c.skip 1)
    else
      match Gap.read 0 c.fuel { Gap.none with broken := escaped } c with
      | .error c => throw (c.fault "found unexpected end of stream" scanning)
      | .ok (g, c) =>
        let r ← readWords single start fuel c
        pure (word ++ g.folded ++ r.1, r.2)

/-- Read a quoted scalar, the cursor being at its opening quote. -/
def readQuoted (single : Bool) (c : Cursor) : Except Fault (Scalar × Cursor) := do
  let r ← readWords single c.mark c.fuel (c.skip 1)
  pure (⟨String.ofList r.1, .quoted⟩, r.2)

/-! ## Plain scalars -/

/-- Characters that end a plain scalar inside brackets. -/
def isFlowMark (c : Char) : Bool := [',', '[', ']', '{', '}'].contains c

/-- Read the word at the cursor. -/
def readPlainWord (flow : Bool) (start : Mark) : Nat → Cursor → Except Fault (List Char × Cursor)
  | 0, c => .ok ([], c)
  | fuel + 1, c =>
    match c.at? 0 with
    | none => .ok ([], c)
    | some x =>
      if c.gapAt 0 then .ok ([], c)
      else if flow ∧ x = ':' ∧ (c.at? 1).any fun y => isFlowMark y || y == '?' then
        .error (c.fault "found unexpected ':'" ⟨"while scanning a plain scalar", start⟩)
      else if (x = ':' ∧ c.gapAt 1) ∨ (flow ∧ isFlowMark x) then .ok ([], c)
      else (readPlainWord flow start fuel (c.skip 1)).map fun r => (x :: r.1, r.2)

/-- Read words after a gap; the text, whether a line break stands before what follows, and what
follows. -/
def readPlainWords (flow : Bool) (indent : Nat) (start : Mark) :
    Nat → Gap → Cursor → Except Fault (List Char × Bool × Cursor)
  | 0, g, c => .ok ([], g.broken, c)
  | fuel + 1, g, c => do
    if c.atDocumentMark || c.has '#' 0 then return ([], g.broken, c)
    let (word, c) ← readPlainWord flow start c.fuel c
    let text := if word.isEmpty then [] else g.folded ++ word
    let before := if word.isEmpty then g else Gap.none
    if !(c.atSpace || c.atBreak) then return (text, before.broken, c)
    match Gap.read indent c.fuel before c with
    | .error c => throw (c.fault "found a tab character that violates indentation"
        ⟨"while scanning a plain scalar", start⟩)
    | .ok (g, c) =>
      if !flow && decide (c.mark.column < indent) then return (text, g.broken, c)
      let r ← readPlainWords flow indent start fuel g c
      pure (text ++ r.1, r.2)

/-- Read a plain scalar in a block with so much indentation; whether a line break was passed
behind it. -/
def readPlain (flow : Bool) (indent : Nat) (c : Cursor) :
    Except Fault (Scalar × Bool × Cursor) := do
  let r ← readPlainWords flow indent c.mark c.fuel .none c
  pure (⟨String.ofList r.1, .plain⟩, r.2)

/-! ## Blocks of lines -/

/-- What happens to the line breaks at the end of a block. -/
inductive Chomping where
  | strip
  | clip
  | keep
deriving DecidableEq, Repr

/-- The fault inside a block that starts at a place. -/
def blockFault (start : Mark) (c : Cursor) (problem : String) : Fault :=
  c.fault problem ⟨"while scanning a block scalar", start⟩

/-- The chomping a sign asks for. -/
def chompingOf? (c : Cursor) : Option Chomping :=
  if c.has '+' 0 then some .keep else if c.has '-' 0 then some .strip else none

/-- The indentation a digit asks for. -/
def indentOf? (c : Cursor) : Option Nat := (c.at? 0).filter Char.isDigit |>.bind Url.hexValue?

/-- Read the signs of a block's head: a chomping and an indentation in either order. -/
def readHead (start : Mark) (c : Cursor) : Except Fault (Chomping × Nat × Cursor) :=
  let zero (c : Cursor) : Except Fault (Chomping × Nat × Cursor) :=
    .error (blockFault start c "found an indentation indicator equal to 0")
  match chompingOf? c with
  | some k =>
    let c := c.skip 1
    match indentOf? c with
    | some 0 => zero c
    | some n => .ok (k, n, c.skip 1)
    | none => .ok (k, 0, c)
  | none => match indentOf? c with
    | some 0 => zero c
    | some n =>
      let c := c.skip 1
      match chompingOf? c with
      | some k => .ok (k, n, c.skip 1)
      | none => .ok (.clip, n, c)
    | none => .ok (.clip, 0, c)

/-- Read empty lines up to column `indent`, or as far as blanks go where it is zero: the line
breaks, the furthest column reached, and what follows. -/
def readEmptyLines (start : Mark) (indent : Nat) :
    Nat → Nat → Cursor → Except Fault (List Char × Nat × Cursor)
  | 0, furthest, c => .ok ([], furthest, c)
  | fuel + 1, furthest, c =>
    let blanks := (c.rest.takeWhile (· == ' ')).length
    let c := c.skip (if indent = 0 then blanks else min blanks (indent - c.mark.column))
    let furthest := max furthest c.mark.column
    if (indent = 0 ∨ c.mark.column < indent) ∧ c.has '\t' 0 then
      .error (blockFault start c
        "found a tab character where an indentation space is expected")
    else if c.atBreak then
      (readEmptyLines start indent fuel furthest c.nextLine).map fun r => (c.line.1 ++ r.1, r.2)
    else .ok ([], furthest, c)

/-- Read the lines of a block: its text, its last line break, the empty lines after it. -/
def readLines (folded : Bool) (start : Mark) (indent : Nat) :
    Nat → Bool → List Char → List Char → Cursor →
      Except Fault (List Char × List Char × List Char × Cursor)
  | 0, _, lineBreak, empty, c => .ok ([], lineBreak, empty, c)
  | fuel + 1, blankBefore, lineBreak, empty, c => do
    if c.mark.column ≠ indent ∨ c.rest.isEmpty then return ([], lineBreak, empty, c)
    let blank := c.atSpace
    let joint :=
      if folded ∧ lineBreak = ['\n'] ∧ !blankBefore ∧ !blank then
        (if empty.isEmpty then [' '] else empty)
      else lineBreak ++ empty
    let words := c.rest.takeWhile (!isBreak ·)
    let (b, c) := c.toLineEnd.line
    let (more, _, c) ← readEmptyLines start indent c.fuel 0 c
    let r ← readLines folded start indent fuel blank b more c
    pure (joint ++ words ++ r.1, r.2)

/-- Read a block inside another with so much indentation, the cursor being at its sign. -/
def readBlock (folded : Bool) (parent : Option Nat) (c : Cursor) :
    Except Fault (Scalar × Cursor) := do
  let start := c.mark
  let (chomping, increment, c) ← readHead start (c.skip 1)
  let c := c.skipWhile isSpace
  let c := if c.has '#' 0 then c.toLineEnd else c
  if !c.lineEnds then throw (blockFault start c "did not find expected comment or line break")
  let c := c.nextLine
  let least := match parent with
    | none => 1
    | some n => n + 1
  let asked := if increment = 0 then 0 else match parent with
    | none => increment
    | some n => n + increment
  let (empty, furthest, c) ← readEmptyLines start asked c.fuel 0 c
  let indent := if asked = 0 then max furthest least else asked
  let (text, lineBreak, empty, c) ← readLines folded start indent c.fuel false [] empty c
  let tail := match chomping with
    | .strip => []
    | .clip => lineBreak
    | .keep => lineBreak ++ empty
  pure (⟨String.ofList (text ++ tail), if folded then .folded else .literal⟩, c)

end Yaml
end OfflineChat
