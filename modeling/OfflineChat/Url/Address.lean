import OfflineChat.Number.Decimal
import OfflineChat.Text.Split
import OfflineChat.Url.Encoding

/-! # Numeric addresses

The two kinds of numeric host: four octets, read in any of their old-fashioned
forms (fewer parts, octal, hexadecimal) and written with four decimal parts; and
eight groups of sixteen bits, of which the longest run of zeros may be left out.
-/
namespace OfflineChat
namespace Url

/-! ## Four octets -/

/-- A number in a base, if there are digits and all are of it. -/
def inBase? (base : Nat) (cs : List Char) : Option Nat :=
  cs.foldlM (fun n c => ((hexValue? c).filter (· < base)).map (base * n + ·)) 0

/-- A part of an address: decimal, or octal after a zero, or hexadecimal after a zero and an x. -/
def addressPart? : List Char → Option Nat
  | [] => none
  | '0' :: 'x' :: rest => inBase? 16 rest
  | '0' :: 'X' :: rest => inBase? 16 rest
  | ['0'] => some 0
  | '0' :: rest => inBase? 8 rest
  | cs => inBase? 10 cs

/-- The parts of a name between dots, without an empty one at its end. -/
def addressParts (name : List Char) : List (List Char) :=
  let parts := Text.splitOn '.' name
  if parts.length > 1 && parts.getLast? == some [] then parts.dropLast else parts

/-- Whether a name's last part is a number, so that it can only be an address. -/
def endsInNumber (name : List Char) : Bool :=
  match (addressParts name).getLast? with
  | some [] | none => false
  | some p => p.all Char.isDigit || (addressPart? p).isSome

/-- The address of parts: each but the last stands for one octet, the last for all that remain. -/
def addressOf? (parts : List Nat) : Option Nat :=
  match parts.reverse with
  | [] => none
  | last :: firsts =>
    let firsts := firsts.reverse
    if firsts.length ≤ 3 && firsts.all (· ≤ 255) && last < Nat.pow 256 (4 - firsts.length) then
      some (firsts.foldl (fun n p => 256 * n + p) 0 * Nat.pow 256 (4 - firsts.length) + last)
    else none

/-- Read an address of four octets. -/
def readAddress? (name : List Char) : Option Nat :=
  ((addressParts name).mapM addressPart?).bind addressOf?

/-- An address of four octets with decimal parts. -/
def addressText (n : Nat) : String :=
  String.intercalate "." ([3, 2, 1, 0].map fun i => toString (n / Nat.pow 256 i % 256))

/-! ## Eight groups -/

/-- A group: one to four hexadecimal digits. -/
def group? (cs : List Char) : Option Nat :=
  if cs.isEmpty || cs.length > 4 then none else inBase? 16 cs

/-- A decimal octet without zeros in front. -/
def octet? (cs : List Char) : Option Nat :=
  if cs.length > 1 && cs.head? == some '0' then none
  else (Decimal.digits? cs).filter (· ≤ 255)

/-- The last part of a list of groups: one group, or four octets that make two. -/
def lastGroups? (cs : List Char) : Option (List Nat) :=
  match Text.splitOn '.' cs with
  | [_] => (group? cs).map ([·])
  | [a, b, c, d] => do
    pure [(← octet? a) * 256 + (← octet? b), (← octet? c) * 256 + (← octet? d)]
  | _ => none

/-- Groups between colons. -/
def groups? (cs : List Char) : Option (List Nat) :=
  if cs.isEmpty then some []
  else
    let parts := Text.splitOn ':' cs
    match parts.getLast? with
    | none => none
    | some l => do pure ((← parts.dropLast.mapM group?) ++ (← lastGroups? l))

/-- Cut a list at the first two colons in a row. -/
def cutAtGap : List Char → Option (List Char × List Char)
  | [] => none
  | ':' :: ':' :: rest => some ([], rest)
  | c :: rest => (cutAtGap rest).map fun r => (c :: r.1, r.2)

/-- Read an address of eight groups; a gap stands for at least one group of zero. -/
def readGroups? (cs : List Char) : Option (List Nat) :=
  match cutAtGap cs with
  | none => (groups? cs).filter (·.length = 8)
  | some (before, after) => do
    let front ← if before.any (· == '.') then none else groups? before
    let back ← groups? after
    if front.length + back.length < 8 then
      some (front ++ List.replicate (8 - front.length - back.length) 0 ++ back)
    else none

/-- The length of the run of zeros at the front. -/
def zeroRun (groups : List Nat) : Nat := (groups.takeWhile (· == 0)).length

/-- The place and length of the longest run of zeros, the first of equals; `start` is the place of
the list's head. -/
def longestRun (start : Nat) : List Nat → Nat × Nat
  | [] => (start, 0)
  | g :: rest =>
    let here := zeroRun (g :: rest)
    let later := longestRun (start + 1) rest
    if here ≥ later.2 then (start, here) else later

/-- Groups in lower-case hexadecimal with colons between them. -/
def groupsText (groups : List Nat) : String :=
  String.intercalate ":" (groups.map fun g => String.ofList (Nat.toDigits 16 g))

/-- An address of eight groups; its longest run of at least two zeros is a gap. -/
def addressOfGroupsText (groups : List Nat) : String :=
  let (place, length) := longestRun 0 groups
  if length < 2 then groupsText groups
  else groupsText (groups.take place) ++ "::" ++ groupsText (groups.drop (place + length))

end Url
end OfflineChat
