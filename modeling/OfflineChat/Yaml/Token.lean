import OfflineChat.Number.Decimal
import OfflineChat.Yaml.Scalar

/-! # Tokens

A YAML text as marks and scalars.  A scalar, an alias or a bracket may turn out
to be a key when a colon follows it in its line, so the mark for a key, and that
for the mapping it belongs to, are put in front of tokens already read.  Tokens
are given out only when no such mark can come before them any more;
`Token.ofText` gives those and the fault that ends them.
-/
namespace OfflineChat
namespace Yaml

/-- What a token is. -/
inductive TokenKind where
  | streamStart
  | streamEnd
  | version (major minor : Nat)
  | tagRule (handle expansion : String)
  | documentStart
  | documentEnd
  | blockSequence
  | blockMapping
  | blockEnd
  | flowSequence
  | flowSequenceEnd
  | flowMapping
  | flowMappingEnd
  | blockEntry
  | flowEntry
  | key
  | value
  | alias (name : String)
  | anchor (name : String)
  | tag (handle suffix : String)
  | scalar (s : Scalar)
deriving DecidableEq, Repr

/-- A token and where it starts and stops. -/
structure Token where
  kind : TokenKind
  start : Mark
  stop : Mark
deriving DecidableEq, Repr

/-- A token that may turn out to be a key: its number, and whether it must. -/
structure PossibleKey where
  needed : Bool
  number : Nat
  mark : Mark

/-- The state of reading tokens. -/
structure Scanner where
  cursor : Cursor
  /-- Tokens read and not given out. -/
  waiting : List Token
  /-- How many tokens were given out. -/
  given : Nat
  /-- The columns of the open blocks, the innermost first. -/
  blocks : List Nat
  /-- The possible key of each open bracket, the innermost first, and that outside of all. -/
  keys : List (Option PossibleKey)
  /-- Whether a key may start here. -/
  keyAllowed : Bool

namespace Scanner

/-- The scanner in front of a text. -/
def ofText (s : String) : Scanner :=
  ⟨.ofText s, [⟨.streamStart, .start, .start⟩], 0, [], [none], true⟩

/-- Where the scanner is. -/
def mark (s : Scanner) : Mark := s.cursor.mark

/-- Whether the scanner is inside brackets. -/
def inFlow (s : Scanner) : Bool := s.keys.length > 1

/-- Append a token. -/
def push (s : Scanner) (t : Token) : Scanner := { s with waiting := s.waiting ++ [t] }

/-- Insert a token in front of the one with a number. -/
def insert (s : Scanner) (number : Nat) (t : Token) : Scanner :=
  let n := number - s.given
  { s with waiting := s.waiting.take n ++ t :: s.waiting.drop n }

/-- The fault that something goes wrong here. -/
def fault (s : Scanner) (problem : String) : Fault := .malformed problem s.mark none

/-- The fault that a needed key has no colon. -/
def keyFault (s : Scanner) (k : PossibleKey) : Fault :=
  s.cursor.fault "could not find expected ':'" ⟨"while scanning a simple key", k.mark⟩

/-! ## Possible keys -/

/-- Forget the innermost possible key, unless it must be one. -/
def dropKey (s : Scanner) : Except Fault Scanner :=
  match s.keys with
  | some k :: rest =>
    if k.needed then .error (s.keyFault k) else .ok { s with keys := none :: rest }
  | _ => .ok s

/-- Remember that the next token may be a key. -/
def saveKey (s : Scanner) : Except Fault Scanner :=
  if s.keyAllowed then do
    let needed := !s.inFlow && s.blocks.head? == some s.mark.column
    let s ← s.dropKey
    pure { s with keys := some ⟨needed, s.given + s.waiting.length, s.mark⟩ :: s.keys.drop 1 }
  else .ok s

/-- Whether a possible key lies too far back to be one. -/
def isStale (s : Scanner) (k : PossibleKey) : Bool :=
  decide (k.mark.line < s.mark.line) || decide (k.mark.index + 1024 < s.mark.index)

/-- Forget the possible keys that lie too far back. -/
def dropStale (s : Scanner) : Except Fault Scanner :=
  match s.keys.reverse.findSome? fun k => k.filter fun k => s.isStale k && k.needed with
  | some k => .error (s.keyFault k)
  | none => .ok { s with keys := s.keys.map fun k => k.filter (!s.isStale ·) }

/-! ## Blocks -/

/-- Open a block at a column, if it is further in than the open ones. -/
def openBlock (s : Scanner) (column : Nat) (place : Option Nat) (kind : TokenKind) (m : Mark) :
    Scanner :=
  if s.inFlow then s
  else if (s.blocks.head?.map fun b => decide (b < column)).getD true then
    let s := { s with blocks := column :: s.blocks }
    match place with
    | none => s.push ⟨kind, m, m⟩
    | some n => s.insert n ⟨kind, m, m⟩
  else s

/-- Close the blocks that start at a column for which `p` holds. -/
def closeBlocks (s : Scanner) (p : Nat → Bool) : Scanner :=
  if s.inFlow then s
  else
    let n := (s.blocks.takeWhile p).length
    { s with
      blocks := s.blocks.drop n
      waiting := s.waiting ++ List.replicate n ⟨.blockEnd, s.mark, s.mark⟩ }

/-! ## Tokens -/

/-- Go past blanks, comments and line breaks.  Outside brackets a new line may start a key; a tab
is no blank where a key may start. -/
def skipGap : Nat → Scanner → Scanner
  | 0, s => s
  | fuel + 1, s =>
    let c := if s.mark.index = 0 ∧ s.cursor.has '\uFEFF' 0 then s.cursor.skip 1 else s.cursor
    let c := c.skipWhile fun x => x == ' ' || (x == '\t' && (s.inFlow || !s.keyAllowed))
    let c := if c.has '#' 0 then c.toLineEnd else c
    if c.atBreak then
      skipGap fuel { s with cursor := c.nextLine, keyAllowed := s.keyAllowed || !s.inFlow }
    else { s with cursor := c }

/-- Append the token of the next characters. -/
def pushMark (s : Scanner) (kind : TokenKind) (length : Nat) : Scanner :=
  let c := s.cursor.skip length
  ({ s with cursor := c }).push ⟨kind, s.mark, c.mark⟩

/-- Characters of names. -/
def isNameChar (c : Char) : Bool := c.isAlphanum || c == '_' || c == '-'

/-- Read a directive's number. -/
def versionNumber (a : Activity) (c : Cursor) : Except Fault (Nat × Cursor) :=
  let ds := c.rest.takeWhile Char.isDigit
  if ds.length > 9 then .error ((c.skip 9).fault "found extremely long version number" a)
  else if ds.isEmpty then .error (c.fault "did not find expected version number" a)
  else .ok (Decimal.natOf ds, c.skip ds.length)

/-- Read the version a directive asks for. -/
def versionOf (start : Mark) (c : Cursor) : Except Fault (TokenKind × Cursor) := do
  let a : Activity := ⟨"while scanning a %YAML directive", start⟩
  let (major, c) ← versionNumber a (c.skipWhile isSpace)
  if !c.has '.' 0 then throw (c.fault "did not find expected digit or '.' character" a)
  let (minor, c) ← versionNumber a (c.skip 1)
  pure (.version major minor, c)

/-- Read a tag handle: a mark between exclamation marks. -/
def tagHandle (directive : Bool) (start : Mark) (c : Cursor) :
    Except Fault (List Char × Cursor) :=
  let a (verb : String) : Activity :=
    ⟨verb ++ (if directive then " a tag directive" else " a tag"), start⟩
  if !c.has '!' 0 then .error (c.fault "did not find expected '!'" (a "while scanning"))
  else
    let name := (c.rest.drop 1).takeWhile isNameChar
    let c' := c.skip (1 + name.length)
    if c'.has '!' 0 then .ok ('!' :: name ++ ['!'], c'.skip 1)
    else if directive ∧ !name.isEmpty then
      .error (c'.fault "did not find expected '!'" (a "while parsing"))
    else .ok ('!' :: name, c')

/-- Characters of tags. -/
def isTagChar (whole : Bool) (c : Char) : Bool :=
  isNameChar c ||
    [';', '/', '?', ':', '@', '&', '=', '+', '$', '.', '!', '~', '*', '\'', '(', ')',
      '%'].contains c ||
    (whole && [',', '[', ']'].contains c)

/-- Read one character given by escaped octets. -/
def tagEscape (a : Activity) (c : Cursor) : Except Fault (List Char × Cursor) :=
  let octet (c : Cursor) : Except Fault (UInt8 × Cursor) :=
    match c.rest with
    | '%' :: x :: y :: _ => match Url.octetOf? x y with
      | some b => .ok (b, c.skip 3)
      | none => .error (c.fault "did not find URI escaped octet" a)
    | _ => .error (c.fault "did not find URI escaped octet" a)
  do
    let (b, c₁) ← octet c
    if b < 0x80 then return ([Char.ofNat b.toNat], c₁)
    match Text.lead? b with
    | none => throw (c.fault "found an incorrect leading UTF-8 octet" a)
    | some l =>
      let rec more : Nat → Nat → Cursor → Except Fault (Nat × Cursor)
        | 0, v, c => .ok (v, c)
        | n + 1, v, c => do
          let (b, c') ← octet c
          if 0x80 ≤ b && b ≤ 0xBF then more n (v * 64 + (b.toNat - 0x80)) c'
          else throw (c.fault "found an incorrect trailing UTF-8 octet" a)
      let (v, c₂) ← more (l.more + 1) l.bits c₁
      pure ([Char.ofNat v], c₂)

/-- Read the characters of a tag. -/
def tagChars (whole : Bool) (a : Activity) : Nat → Cursor → Except Fault (List Char × Cursor)
  | 0, c => .ok ([], c)
  | fuel + 1, c =>
    match c.at? 0 with
    | none => .ok ([], c)
    | some x =>
      if !isTagChar whole x then .ok ([], c)
      else do
        let (xs, c) ← if x = '%' then tagEscape a c else .ok ([x], c.skip 1)
        let r ← tagChars whole a fuel c
        pure (xs ++ r.1, r.2)

/-- Read the characters of a tag after a head; there must be some of either. -/
def tagUri (whole directive : Bool) (head : List Char) (start : Mark) (c : Cursor) :
    Except Fault (List Char × Cursor) := do
  let a : Activity :=
    ⟨if directive then "while parsing a %TAG directive" else "while parsing a tag", start⟩
  let (cs, c) ← tagChars whole a c.fuel c
  if head.isEmpty ∧ cs.isEmpty then throw (c.fault "did not find expected tag URI" a)
  pure (head.drop 1 ++ cs, c)

/-- Read the tag rule a directive gives. -/
def tagRuleOf (start : Mark) (c : Cursor) : Except Fault (TokenKind × Cursor) := do
  let a : Activity := ⟨"while scanning a %TAG directive", start⟩
  let (handle, c) ← tagHandle true start (c.skipWhile isSpace)
  if !c.atSpace then throw (c.fault "did not find expected whitespace" a)
  let (expansion, c) ← tagUri true true [] start (c.skipWhile isSpace)
  if !c.gapAt 0 then throw (c.fault "did not find expected whitespace or line break" a)
  pure (.tagRule (String.ofList handle) (String.ofList expansion), c)

/-- Read a directive. -/
def directive (s : Scanner) : Except Fault Scanner := do
  let s ← (s.closeBlocks fun _ => true).dropKey
  let start := s.mark
  let a : Activity := ⟨"while scanning a directive", start⟩
  let c := s.cursor.skip 1
  let name := c.rest.takeWhile isNameChar
  let c := c.skip name.length
  if name.isEmpty then throw (c.fault "could not find expected directive name" a)
  if !c.gapAt 0 then throw (c.fault "found unexpected non-alphabetical character" a)
  let (kind, c) ←
    if name = "YAML".toList then versionOf start c
    else if name = "TAG".toList then tagRuleOf start c
    else throw (c.fault "found unknown directive name" a)
  let stop := c.mark
  let c := c.skipWhile isSpace
  let c := if c.has '#' 0 then c.toLineEnd else c
  if !c.lineEnds then throw (c.fault "did not find expected comment or line break" a)
  pure ({ s with cursor := c.nextLine, keyAllowed := false }.push ⟨kind, start, stop⟩)

/-- Read a line that separates documents. -/
def documentMark (s : Scanner) (kind : TokenKind) : Except Fault Scanner := do
  let s ← (s.closeBlocks fun _ => true).dropKey
  pure ({ s with keyAllowed := false }.pushMark kind 3)

/-- Read an opening bracket. -/
def flowStart (s : Scanner) (kind : TokenKind) : Except Fault Scanner := do
  let s ← s.saveKey
  pure ({ s with keys := none :: s.keys, keyAllowed := true }.pushMark kind 1)

/-- Read a closing bracket. -/
def flowEnd (s : Scanner) (kind : TokenKind) : Except Fault Scanner := do
  let s ← s.dropKey
  let keys := if s.inFlow then s.keys.drop 1 else s.keys
  pure ({ s with keys := keys, keyAllowed := false }.pushMark kind 1)

/-- Read a comma. -/
def comma (s : Scanner) : Except Fault Scanner := do
  let s ← s.dropKey
  pure ({ s with keyAllowed := true }.pushMark .flowEntry 1)

/-- Read the hyphen of an entry. -/
def hyphen (s : Scanner) : Except Fault Scanner := do
  if !s.inFlow ∧ !s.keyAllowed then
    throw (s.fault "block sequence entries are not allowed in this context")
  let s ← (s.openBlock s.mark.column none .blockSequence s.mark).dropKey
  pure ({ s with keyAllowed := true }.pushMark .blockEntry 1)

/-- Read the question mark of a key. -/
def questionMark (s : Scanner) : Except Fault Scanner := do
  if !s.inFlow ∧ !s.keyAllowed then
    throw (s.fault "mapping keys are not allowed in this context")
  let s ← (s.openBlock s.mark.column none .blockMapping s.mark).dropKey
  pure ({ s with keyAllowed := !s.inFlow }.pushMark .key 1)

/-- Read the colon of a value; the possible key before it is one. -/
def colon (s : Scanner) : Except Fault Scanner :=
  match s.keys with
  | some k :: rest =>
    let s := (s.insert k.number ⟨.key, k.mark, k.mark⟩).openBlock k.mark.column (some k.number)
      .blockMapping k.mark
    .ok ({ s with keys := none :: rest, keyAllowed := false }.pushMark .value 1)
  | _ =>
    if !s.inFlow ∧ !s.keyAllowed then
      .error (s.fault "mapping values are not allowed in this context")
    else
      let s := s.openBlock s.mark.column none .blockMapping s.mark
      .ok ({ s with keyAllowed := !s.inFlow }.pushMark .value 1)

/-- Read an anchor or an alias. -/
def named (s : Scanner) (isAnchor : Bool) : Except Fault Scanner := do
  let s ← s.saveKey
  let start := s.mark
  let c := s.cursor.skip 1
  let name := c.rest.takeWhile isNameChar
  let c := c.skip name.length
  let ends := c.gapAt 0 || (c.at? 0).any ['?', ':', ',', ']', '}', '%', '@', '`'].contains
  if name.isEmpty ∨ !ends then
    throw (c.fault "did not find expected alphabetic or numeric character"
      ⟨if isAnchor then "while scanning an anchor" else "while scanning an alias", start⟩)
  let text := String.ofList name
  pure ({ s with cursor := c, keyAllowed := false }.push
    ⟨if isAnchor then .anchor text else .alias text, start, c.mark⟩)

/-- The parts of a tag. -/
def tagParts (start : Mark) (c : Cursor) : Except Fault (List Char × List Char × Cursor) := do
  if c.has '<' 1 then
    let (suffix, c) ← tagUri true false [] start (c.skip 2)
    if !c.has '>' 0 then
      throw (c.fault "did not find the expected '>'" ⟨"while scanning a tag", start⟩)
    pure ([], suffix, c.skip 1)
  else
    let (handle, c) ← tagHandle false start c
    if handle.length > 1 ∧ handle.getLast? = some '!' then
      let (suffix, c) ← tagUri false false [] start c
      pure (handle, suffix, c)
    else
      let (suffix, c) ← tagUri false false handle start c
      if suffix.isEmpty then pure ([], ['!'], c) else pure (['!'], suffix, c)

/-- Read a tag. -/
def tag (s : Scanner) : Except Fault Scanner := do
  let s ← s.saveKey
  let start := s.mark
  let (handle, suffix, c) ← tagParts start s.cursor
  if !(c.gapAt 0 || (s.inFlow && c.has ',' 0)) then
    throw (c.fault "did not find expected whitespace or line break" ⟨"while scanning a tag", start⟩)
  pure ({ s with cursor := c, keyAllowed := false }.push
    ⟨.tag (String.ofList handle) (String.ofList suffix), start, c.mark⟩)

/-- Read a block of lines. -/
def block (s : Scanner) (folded : Bool) : Except Fault Scanner := do
  let s ← s.dropKey
  let (x, c) ← readBlock folded s.blocks.head? s.cursor
  pure ({ s with cursor := c, keyAllowed := true }.push ⟨.scalar x, s.mark, c.mark⟩)

/-- Read a quoted scalar. -/
def quoted (s : Scanner) (single : Bool) : Except Fault Scanner := do
  let s ← s.saveKey
  let (x, c) ← readQuoted single s.cursor
  pure ({ s with cursor := c, keyAllowed := false }.push ⟨.scalar x, s.mark, c.mark⟩)

/-- Read a plain scalar. -/
def plain (s : Scanner) : Except Fault Scanner := do
  let s ← s.saveKey
  let indent := (s.blocks.head?.map (· + 1)).getD 0
  let (x, broken, c) ← readPlain s.inFlow indent s.cursor
  pure ({ s with cursor := c, keyAllowed := broken }.push ⟨.scalar x, s.mark, c.mark⟩)

/-- Read the end of the text. -/
def finish (s : Scanner) : Except Fault Scanner := do
  let m := s.mark
  let m := if m.column = 0 then m else { m with line := m.line + 1, column := 0 }
  let s := { s with cursor := { s.cursor with mark := m } }
  let s ← (s.closeBlocks fun _ => true).dropKey
  pure ({ s with keyAllowed := false }.push ⟨.streamEnd, m, m⟩)

/-- Characters that start no plain scalar. -/
def isIndicator (c : Char) : Bool :=
  ['-', '?', ':', ',', '[', ']', '{', '}', '#', '&', '*', '!', '|', '>', '\'', '"', '%', '@',
    '`'].contains c

/-- Read the next token. -/
def next (s : Scanner) : Except Fault Scanner := do
  let s ← (s.skipGap s.cursor.fuel).dropStale
  let s := s.closeBlocks (s.mark.column < ·)
  let c := s.cursor
  match c.at? 0 with
  | none => s.finish
  | some x =>
    if s.mark.column = 0 ∧ x = '%' then s.directive
    else if c.atDocumentMark then s.documentMark (if x = '-' then .documentStart else .documentEnd)
    else if x = '[' then s.flowStart .flowSequence
    else if x = '{' then s.flowStart .flowMapping
    else if x = ']' then s.flowEnd .flowSequenceEnd
    else if x = '}' then s.flowEnd .flowMappingEnd
    else if x = ',' then s.comma
    else if x = '-' ∧ c.gapAt 1 then s.hyphen
    else if x = '?' ∧ (s.inFlow ∨ c.gapAt 1) then s.questionMark
    else if x = ':' ∧ (s.inFlow ∨ c.gapAt 1) then s.colon
    else if x = '*' then s.named false
    else if x = '&' then s.named true
    else if x = '!' then s.tag
    else if x = '|' ∧ !s.inFlow then s.block false
    else if x = '>' ∧ !s.inFlow then s.block true
    else if x = '\'' then s.quoted true
    else if x = '"' then s.quoted false
    else if (!c.gapAt 0 ∧ !isIndicator x) ∨ (x = '-' ∧ !(c.at? 1).any isSpace) ∨
        (!s.inFlow ∧ (x = '?' ∨ x = ':') ∧ !c.gapAt 1) then s.plain
    else throw (c.fault "found character that cannot start any token"
      ⟨"while scanning for the next token", s.mark⟩)

/-- Whether a mark may still have to be put in front of the first waiting token. -/
def isUnsettled (s : Scanner) : Bool :=
  s.waiting.isEmpty || s.keys.any fun k => k.any (·.number == s.given)

/-- Read tokens until the first one can be given out. -/
def settle : Nat → Scanner → Except Fault Scanner
  | 0, s => .ok s
  | fuel + 1, s => do
    let s ← if s.waiting.isEmpty then pure s else s.dropStale
    if s.isUnsettled then settle fuel (← s.next) else pure s

/-- Give out tokens up to the end of the text or a fault. -/
def run : Nat → Scanner → List Token × Option Fault
  | 0, _ => ([], none)
  | fuel + 1, s =>
    match settle (s.cursor.fuel + 1) s with
    | .error f => ([], some f)
    | .ok s => match s.waiting with
      | [] => ([], none)
      | t :: rest =>
        if t.kind = .streamEnd then ([t], none)
        else
          let r := run fuel { s with waiting := rest, given := s.given + 1 }
          (t :: r.1, r.2)

end Scanner

/-- Whether a character may stand in a text. -/
def isTextChar (c : Char) : Bool :=
  let n := c.toNat
  n == 9 || n == 10 || n == 13 || (0x20 ≤ n && n ≤ 0x7E) || n == 0x85 ||
    (0xA0 ≤ n && n ≤ 0xD7FF) || (0xE000 ≤ n && n ≤ 0xFFFD && n != 0xFEFF) || 0x10000 ≤ n

/-- The fault of the first character that may not stand in a text; one at its very start may mark
the order of octets. -/
def badCharacter? (s : String) : Option Fault :=
  let cs := s.toList
  let (skipped, cs) := match cs with
    | '\uFEFF' :: rest => (3, rest)
    | _ => (0, cs)
  let good := cs.takeWhile isTextChar
  if good.length < cs.length then
    some (.badCharacter (skipped + (String.ofList good).utf8ByteSize))
  else none

/-- The tokens of a text, and the fault that ends them. -/
def Token.ofText (s : String) : List Token × Option Fault :=
  match badCharacter? s with
  | some f => ([], some f)
  | none =>
    let s := match s.toList with
      | '\uFEFF' :: rest => String.ofList rest
      | _ => s
    (Scanner.ofText s).run (4 * s.toList.length + 8)

end Yaml
end OfflineChat
