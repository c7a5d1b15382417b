import OfflineChat.Number.Shortest
import OfflineChat.Text.Visible
import OfflineChat.Yaml.Event

/-! # Nodes

The first document of a text as a tree.  Where the events of the text end with a
fault the tree keeps what came before, so that a reader of values meets faults
of the text and faults of its values in reading order.  `Scalar.meaning` says
what a plain scalar stands for: nothing, a truth value, a number, or itself.
-/
namespace OfflineChat
namespace Yaml

/-- A node of a document. -/
inductive Node where
  | scalar (tag : Option String) (s : Scalar)
  /-- The node of the anchor with a number. -/
  | alias (anchor : Nat)
  | sequence (items : List Node) (closed : Bool)
  | mapping (pairs : List (Node × Node)) (closed : Bool)
  /-- No node at all. -/
  | absent
  /-- The events end here with the fault. -/
  | broken
deriving Inhabited

/-- The first document of a text. -/
structure Tree where
  root : Node
  /-- The nodes of anchors by number, the latest of a number first. -/
  anchors : List (Nat × Node)
  /-- The fault that ends the document. -/
  fault : Option Fault
  /-- Whether another document follows. -/
  more : Bool

namespace Node

/-- Whether the node ends where the text says. -/
def complete : Node → Bool
  | .sequence _ closed => closed
  | .mapping _ closed => closed
  | .broken => false
  | _ => true

end Node

/-- The state of composing nodes: events to come, the fault after them, the number of each anchor
by name, and the nodes of anchors. -/
structure Composer where
  events : List Event
  fault : Option Fault
  names : List (String × Nat)
  anchors : List (Nat × Node)

namespace Composer

/-- Number an anchor: as many names as there are. -/
def declare (c : Composer) (anchor : Option String) : Option Nat × Composer :=
  match anchor with
  | none => (none, c)
  | some name =>
    let n := (c.names.map Prod.fst).eraseDups.length
    (some n, { c with names := (name, n) :: c.names })

/-- Keep the node of an anchor. -/
def keep (c : Composer) (anchor : Option Nat) (node : Node) : Composer :=
  match anchor with
  | none => c
  | some n => { c with anchors := (n, node) :: c.anchors }

mutual

/-- Compose the next node. -/
def node : Nat → Composer → Node × Composer
  | 0, c => (.broken, c)
  | fuel + 1, c =>
    match c.events with
    | [] => (.broken, c)
    | e :: rest =>
      let c := { c with events := rest }
      match e.kind with
      | .alias name => match c.names.lookup name with
        | some n => (.alias n, c)
        | none => (.broken, { c with events := [], fault := some (.unknownAnchor e.mark) })
      | .scalar p s =>
        let (n, c) := c.declare p.anchor
        (.scalar p.tag s, c.keep n (.scalar p.tag s))
      | .sequenceStart p =>
        let (n, c) := c.declare p.anchor
        let (items, closed, c) := items fuel c
        (.sequence items closed, c.keep n (.sequence items closed))
      | .mappingStart p =>
        let (n, c) := c.declare p.anchor
        let (pairs, closed, c) := pairs fuel c
        (.mapping pairs closed, c.keep n (.mapping pairs closed))
      | _ => (.broken, c)

/-- Compose the items of a sequence, and whether it ends. -/
def items : Nat → Composer → List Node × Bool × Composer
  | 0, c => ([], false, c)
  | fuel + 1, c =>
    match c.events with
    | [] => ([], false, c)
    | e :: rest =>
      if e.kind = .sequenceEnd then ([], true, { c with events := rest })
      else
        let (n, c) := node fuel c
        if n.complete then
          let (ns, closed, c) := items fuel c
          (n :: ns, closed, c)
        else ([n], false, c)

/-- Compose the pairs of a mapping, and whether it ends. -/
def pairs : Nat → Composer → List (Node × Node) × Bool × Composer
  | 0, c => ([], false, c)
  | fuel + 1, c =>
    match c.events with
    | [] => ([], false, c)
    | e :: rest =>
      if e.kind = .mappingEnd then ([], true, { c with events := rest })
      else
        let (k, c) := node fuel c
        if k.complete then
          let (v, c) := node fuel c
          if v.complete then
            let (ps, closed, c) := pairs fuel c
            ((k, v) :: ps, closed, c)
          else ([(k, v)], false, c)
        else ([(k, .broken)], false, c)

end

end Composer

/-- The first document of a text. -/
def Tree.ofText (s : String) : Tree :=
  let (events, fault) := Event.ofText s
  match events with
  | [] => ⟨.broken, [], fault, false⟩
  | e :: rest =>
    if e.kind = .streamEnd then ⟨.absent, [], none, false⟩
    else
      let (root, c) := Composer.node (2 * rest.length + 2) ⟨rest, fault, [], []⟩
      match c.events with
      | _ :: next :: _ => ⟨root, c.anchors, none, next.kind ≠ .streamEnd⟩
      | [_] => ⟨root, c.anchors, none, true⟩
      | [] => ⟨root, c.anchors, c.fault, false⟩

/-! ## Meaning -/

/-- What a scalar stands for. -/
inductive Meaning where
  | null
  | bool (b : Bool)
  | int (n : Int)
  | float (x : Binary)
  | text (s : String)
deriving DecidableEq, Repr

namespace Meaning

/-- A number with a point. -/
def pointed (x : Binary) : String :=
  let s := Shortest.plain .double x
  if x.isFinite ∧ !s.toList.contains '.' then s ++ ".0" else s

/-- The wording of a meaning where another one was wanted. -/
def describe : Meaning → String
  | .null => "unit value"
  | .bool b => "boolean `" ++ (if b then "true" else "false") ++ "`"
  | .int n => "integer `" ++ toString n ++ "`" ++
      (if 0xFFFFFFFFFFFFFFFF < n then " as u128"
      else if n < -0x8000000000000000 then " as i128"
      else "")
  | .float x => "floating point `" ++ pointed x ++ "`"
  | .text s => "string " ++ Text.quote s

end Meaning

namespace Scalar

/-- The numbers written in another base than ten, by the letters that mark it. -/
def bases : List (Char × Nat) := [('x', 16), ('o', 8), ('b', 2)]

/-- Digits of a base; at least one. -/
def inBase? (base : Nat) (cs : List Char) : Option Nat :=
  if cs.isEmpty then none
  else cs.foldlM (fun n c => ((Url.hexValue? c).filter (· < base)).map (base * n + ·)) 0

/-- A number without its sign. -/
def magnitude? (cs : List Char) : Option Nat :=
  match cs with
  | '0' :: m :: rest => match bases.lookup m with
    | some base => inBase? base rest
    | none => if rest.all Char.isDigit ∧ m.isDigit then none else inBase? 10 cs
  | _ => inBase? 10 cs

/-- An integer: no zeros stand in front of its digits. -/
def int? (cs : List Char) : Option Int :=
  match cs with
  | '-' :: rest => (magnitude? rest).map fun n => -(n : Int)
  | '+' :: rest => (magnitude? rest).map Int.ofNat
  | _ => (magnitude? cs).map Int.ofNat

/-- Whether a text has only digits of which the first is a zero in front of others. -/
def isPadded (cs : List Char) : Bool :=
  let cs := match cs with
    | '-' :: rest => rest
    | '+' :: rest => rest
    | _ => cs
  match cs with
  | '0' :: d :: rest => d.isDigit && rest.all Char.isDigit
  | _ => false

/-- A number with a fraction, an infinity, or no number. -/
def float? (s : String) : Option Binary :=
  if s ∈ [".inf", ".Inf", ".INF", "+.inf", "+.Inf", "+.INF"] then some (.infinite false)
  else if s ∈ ["-.inf", "-.Inf", "-.INF"] then some (.infinite true)
  else if s ∈ [".nan", ".NaN", ".NAN"] then some .nan
  else (Decimal.binary? .double s).filter (·.isFinite)

/-- What a plain scalar stands for. -/
def plainMeaning (s : String) : Meaning :=
  if s ∈ ["", "null", "Null", "NULL", "~"] then .null
  else if s ∈ ["true", "True", "TRUE"] then .bool true
  else if s ∈ ["false", "False", "FALSE"] then .bool false
  else
    let wide (n : Int) : Bool := -(Nat.pow 2 127 : Nat) ≤ n ∧ n < (Nat.pow 2 128 : Nat)
    match (int? s.toList).filter wide with
    | some n => .int n
    | none => if isPadded s.toList then .text s else match float? s with
      | some x => .float x
      | none => .text s

/-- Whether the scalar is one of the words for nothing. -/
def isNull (s : Scalar) : Bool := s.style == .plain && plainMeaning s.text == .null

end Scalar
end Yaml
end OfflineChat
