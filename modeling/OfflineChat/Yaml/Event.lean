import OfflineChat.Yaml.Token

/-! # Events

The tokens of a text as what its documents are made of: scalars, aliases, and
the starts and ends of sequences and mappings.  Nodes that a text leaves out are
empty scalars.  `Event.ofText` gives the events and the fault that ends them.
-/
namespace OfflineChat
namespace Yaml

/-- What may stand in front of a node: an anchor and a tag. -/
structure Properties where
  anchor : Option String
  tag : Option String
deriving DecidableEq, Repr

/-- A part of a document. -/
inductive EventKind where
  | documentStart
  | documentEnd
  | alias (name : String)
  | scalar (p : Properties) (s : Scalar)
  | sequenceStart (p : Properties)
  | sequenceEnd
  | mappingStart (p : Properties)
  | mappingEnd
  | streamEnd
deriving DecidableEq, Repr

/-- A part of a document and where it starts. -/
structure Event where
  kind : EventKind
  mark : Mark
deriving DecidableEq, Repr

/-- What is expected next. -/
inductive Expecting where
  /-- A document; whether its start may be left out. -/
  | document (implicit : Bool)
  | content
  | documentEnd
  | node (block indentless : Bool)
  | entry (first : Bool)
  | indentlessEntry
  | key (first : Bool)
  | value
  | flowEntry (first : Bool)
  | flowPairKey
  | flowPairValue
  | flowPairEnd
  | flowKey (first : Bool)
  | flowValue (empty : Bool)
  | nothing
deriving DecidableEq, Repr

/-- The state of reading events. -/
structure Reader where
  tokens : List Token
  /-- The fault that ends the tokens. -/
  fault : Option Fault
  expecting : Expecting
  /-- What is expected after the nodes that are open. -/
  later : List Expecting
  /-- Where the open sequences and mappings start. -/
  opened : List Mark
  /-- What the tag handles of the document stand for. -/
  tagRules : List (String × String)

namespace Reader

/-- The reader in front of tokens. -/
def ofTokens (r : List Token × Option Fault) : Reader :=
  ⟨r.1.drop 1, r.2, .document true, [], [], []⟩

/-- The next token. -/
def peek (r : Reader) : Except Fault Token :=
  match r.tokens with
  | t :: _ => .ok t
  | [] => .error (r.fault.getD (.malformed "" .start none))

/-- Go past the next token. -/
def skip (r : Reader) : Reader := { r with tokens := r.tokens.drop 1 }

/-- Expect something after the node that comes. -/
def thenExpect (r : Reader) (e : Expecting) : Reader := { r with later := e :: r.later }

/-- Expect what comes after the node that ends here. -/
def back (r : Reader) : Reader :=
  { r with expecting := r.later.head?.getD .nothing, later := r.later.drop 1 }

/-- The node that a text leaves out. -/
def emptyNode (m : Mark) : Event := ⟨.scalar ⟨none, none⟩ ⟨"", .plain⟩, m⟩

/-- The fault that something else was expected inside what starts at `m`. -/
def wanted (problem : String) (t : Token) (name : String) (m : Mark) : Fault :=
  .malformed problem t.start (some ⟨name, m⟩)

/-- The tag of a handle and a suffix. -/
def expandTag (r : Reader) (start : Mark) (t : Token) (handle suffix : String) :
    Except Fault String :=
  if handle = "" then .ok suffix
  else match (r.tagRules ++ [("!", "!"), ("!!", "tag:yaml.org,2002:")]).lookup handle with
    | some expansion => .ok (expansion ++ suffix)
    | none => .error (wanted "found undefined tag handle" t "while parsing a node" start)

/-- Read the tag at the front. -/
def takeTag (r : Reader) (start : Mark) : Except Fault (Option String × Reader) := do
  let t ← r.peek
  match t.kind with
  | .tag handle suffix => pure (some (← r.expandTag start t handle suffix), r.skip)
  | _ => pure (none, r)

/-- Read the anchor at the front. -/
def takeAnchor (r : Reader) : Except Fault (Option String × Reader) := do
  match (← r.peek).kind with
  | .anchor name => pure (some name, r.skip)
  | _ => pure (none, r)

/-- Read the properties of a node, in either order. -/
def properties (r : Reader) : Except Fault (Properties × Reader) := do
  let start := (← r.peek).start
  let (anchor, r) ← r.takeAnchor
  let (tag, r) ← r.takeTag start
  if anchor.isSome then pure (⟨anchor, tag⟩, r)
  else if tag.isSome then
    let (anchor, r) ← r.takeAnchor
    pure (⟨anchor, tag⟩, r)
  else pure (⟨none, none⟩, r)

/-- Read the start of a node, or all of it. -/
def node (r : Reader) (block indentless : Bool) : Except Fault (Event × Reader) := do
  let first ← r.peek
  match first.kind with
  | .alias name => return (⟨.alias name, first.start⟩, r.skip.back)
  | _ => pure ()
  let (p, r) ← r.properties
  let t ← r.peek
  let start := first.start
  match t.kind with
  | .blockEntry =>
    if indentless then
      return (⟨.sequenceStart p, start⟩, { r with expecting := .indentlessEntry })
  | .scalar s => return (⟨.scalar p s, start⟩, r.skip.back)
  | .flowSequence =>
    return (⟨.sequenceStart p, start⟩, { r with expecting := .flowEntry true })
  | .flowMapping =>
    return (⟨.mappingStart p, start⟩, { r with expecting := .flowKey true })
  | .blockSequence =>
    if block then return (⟨.sequenceStart p, start⟩, { r with expecting := .entry true })
  | .blockMapping =>
    if block then return (⟨.mappingStart p, start⟩, { r with expecting := .key true })
  | _ => pure ()
  if p.anchor.isSome ∨ p.tag.isSome then
    return (⟨.scalar p ⟨"", .plain⟩, start⟩, r.back)
  throw (wanted "did not find expected node content" t
    (if block then "while parsing a block node" else "while parsing a flow node") start)

/-- Open a sequence or mapping at its first token. -/
def opening (r : Reader) (first : Bool) : Except Fault Reader := do
  if first then
    let t ← r.peek
    pure { r.skip with opened := t.start :: r.opened }
  else pure r

/-- Close the innermost sequence or mapping at its last token. -/
def closing (r : Reader) (t : Token) (kind : EventKind) : Event × Reader :=
  (⟨kind, t.start⟩, { r.skip.back with opened := r.opened.drop 1 })

/-- Where the innermost sequence or mapping starts. -/
def openedAt (r : Reader) : Mark := r.opened.head?.getD .start

/-- The rules a document starts with. -/
def rules : Nat → Reader → Bool → List (String × String) →
    Except Fault (List (String × String) × Reader)
  | 0, r, _, acc => .ok (acc, r)
  | fuel + 1, r, versioned, acc => do
    let t ← r.peek
    match t.kind with
    | .version major minor =>
      if versioned then throw (.malformed "found duplicate %YAML directive" t.start none)
      if major ≠ 1 ∨ (minor ≠ 1 ∧ minor ≠ 2) then
        throw (.malformed "found incompatible YAML document" t.start none)
      rules fuel r.skip true acc
    | .tagRule handle expansion =>
      if (acc.lookup handle).isSome then
        throw (.malformed "found duplicate %TAG directive" t.start none)
      rules fuel r.skip versioned (acc ++ [(handle, expansion)])
    | _ => pure (acc, r)

/-- Go past lines that end documents. -/
def skipEnds : Nat → Reader → Except Fault Reader
  | 0, r => .ok r
  | fuel + 1, r => do
    match (← r.peek).kind with
    | .documentEnd => skipEnds fuel r.skip
    | _ => pure r

/-- Read the start of a document. -/
def document (r : Reader) (implicit : Bool) : Except Fault (Event × Reader) := do
  let r ← if implicit then pure r else skipEnds (r.tokens.length + 1) r
  let t ← r.peek
  let explicit := match t.kind with
    | .version .. | .tagRule .. | .documentStart | .streamEnd => true
    | _ => false
  if implicit ∧ !explicit then
    return (⟨.documentStart, t.start⟩, { r.thenExpect .documentEnd with
      expecting := .node true false, tagRules := [] })
  if t.kind = .streamEnd then
    return (⟨.streamEnd, t.start⟩, { r.skip with expecting := .nothing })
  let (acc, r) ← rules (r.tokens.length + 1) r false []
  let d ← r.peek
  if d.kind ≠ .documentStart then
    throw (.malformed "did not find expected <document start>" d.start none)
  pure (⟨.documentStart, t.start⟩, { r.skip.thenExpect .documentEnd with
    expecting := .content, tagRules := acc })

/-- A node, or the empty one if one of the tokens for which `ends` holds is next; `e` is expected
after it. -/
def nodeOr (r : Reader) (ends : TokenKind → Bool) (m : Mark) (e : Expecting)
    (block indentless : Bool) : Except Fault (Event × Reader) := do
  let t ← r.peek
  if ends t.kind then pure (emptyNode m, { r with expecting := e })
  else (r.thenExpect e).node block indentless

/-- Read the next event. -/
def step (r : Reader) : Except Fault (Event × Reader) := do
  match r.expecting with
  | .document implicit => r.document implicit
  | .content =>
    let t ← r.peek
    match t.kind with
    | .version .. | .tagRule .. | .documentStart | .documentEnd | .streamEnd =>
      pure (emptyNode t.start, r.back)
    | _ => r.node true false
  | .documentEnd =>
    let t ← r.peek
    let r := if t.kind = .documentEnd then r.skip else r
    pure (⟨.documentEnd, t.start⟩, { r with expecting := .document false })
  | .node block indentless => r.node block indentless
  | .entry first =>
    let r ← r.opening first
    let t ← r.peek
    match t.kind with
    | .blockEntry =>
      r.skip.nodeOr (fun k => k == .blockEntry || k == .blockEnd) t.stop (.entry false) true false
    | .blockEnd => pure (r.closing t .sequenceEnd)
    | _ => throw (wanted "did not find expected '-' indicator" t
        "while parsing a block collection" r.openedAt)
  | .indentlessEntry =>
    let t ← r.peek
    match t.kind with
    | .blockEntry =>
      r.skip.nodeOr (fun k => k == .blockEntry || k == .key || k == .value || k == .blockEnd)
        t.stop .indentlessEntry true false
    | _ => pure (⟨.sequenceEnd, t.start⟩, r.back)
  | .key first =>
    let r ← r.opening first
    let t ← r.peek
    match t.kind with
    | .key =>
      r.skip.nodeOr (fun k => k == .key || k == .value || k == .blockEnd) t.stop .value true true
    | .blockEnd => pure (r.closing t .mappingEnd)
    | _ => throw (wanted "did not find expected key" t "while parsing a block mapping" r.openedAt)
  | .value =>
    let t ← r.peek
    match t.kind with
    | .value =>
      r.skip.nodeOr (fun k => k == .key || k == .value || k == .blockEnd) t.stop (.key false)
        true true
    | _ => pure (emptyNode t.start, { r with expecting := .key false })
  | .flowEntry first =>
    let r ← r.opening first
    let t ← r.peek
    if t.kind = .flowSequenceEnd then return r.closing t .sequenceEnd
    let r ← if first then pure r
      else if t.kind = .flowEntry then pure r.skip
      else throw (wanted "did not find expected ',' or ']'" t "while parsing a flow sequence"
        r.openedAt)
    let t ← r.peek
    match t.kind with
    | .key =>
      pure (⟨.mappingStart ⟨none, none⟩, t.start⟩, { r.skip with expecting := .flowPairKey })
    | .flowSequenceEnd => pure (r.closing t .sequenceEnd)
    | _ => (r.thenExpect (.flowEntry false)).node false false
  | .flowPairKey =>
    let t ← r.peek
    match t.kind with
    | .value | .flowEntry | .flowSequenceEnd =>
      pure (emptyNode t.stop, { r.skip with expecting := .flowPairValue })
    | _ => (r.thenExpect .flowPairValue).node false false
  | .flowPairValue =>
    let t ← r.peek
    match t.kind with
    | .value =>
      let r := r.skip
      r.nodeOr (fun k => k == .flowEntry || k == .flowSequenceEnd) (← r.peek).start .flowPairEnd
        false false
    | _ => pure (emptyNode t.start, { r with expecting := .flowPairEnd })
  | .flowPairEnd =>
    let t ← r.peek
    pure (⟨.mappingEnd, t.start⟩, { r with expecting := .flowEntry false })
  | .flowKey first =>
    let r ← r.opening first
    let t ← r.peek
    if t.kind = .flowMappingEnd then return r.closing t .mappingEnd
    let r ← if first then pure r
      else if t.kind = .flowEntry then pure r.skip
      else throw (wanted "did not find expected ',' or '\x7d'" t "while parsing a flow mapping"
        r.openedAt)
    let t ← r.peek
    match t.kind with
    | .key =>
      let r := r.skip
      r.nodeOr (fun k => k == .value || k == .flowEntry || k == .flowMappingEnd) (← r.peek).start
        (.flowValue false) false false
    | .flowMappingEnd => pure (r.closing t .mappingEnd)
    | _ => (r.thenExpect (.flowValue true)).node false false
  | .flowValue empty =>
    let t ← r.peek
    if empty ∨ t.kind ≠ .value then
      return (emptyNode t.start, { r with expecting := .flowKey false })
    let r := r.skip
    r.nodeOr (fun k => k == .flowEntry || k == .flowMappingEnd) (← r.peek).start (.flowKey false)
      false false
  | .nothing => pure (⟨.streamEnd, .start⟩, r)

/-- Read events up to the end of the text or a fault. -/
def run : Nat → Reader → List Event × Option Fault
  | 0, _ => ([], none)
  | fuel + 1, r =>
    match r.step with
    | .error f => ([], some f)
    | .ok (e, r) =>
      if e.kind = .streamEnd then ([e], none)
      else
        let rest := run fuel r
        (e :: rest.1, rest.2)

end Reader

/-- The events of a text, and the fault that ends them. -/
def Event.ofText (s : String) : List Event × Option Fault :=
  let tokens := Token.ofText s
  (Reader.ofTokens tokens).run (4 * tokens.1.length + 16)

end Yaml
end OfflineChat
