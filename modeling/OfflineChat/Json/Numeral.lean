import OfflineChat.Number.Binary

/-! # Numerals

The number literals of JSON: their grammar, `Numeral.scan`, and the number one
stands for, `Numeral.value?`.  A literal without fraction and exponent is an
integer if it fits sixty-four bits.  Every other literal is a double, computed
from its leading digits and one or more scalings by a power of ten, each of
which rounds; a literal beyond the greatest double stands for no number.
-/
namespace OfflineChat

/-- A number literal, cut into its parts. -/
structure Numeral where
  negative : Bool
  whole : List Char
  /-- The digits after the point; none without a point. -/
  fraction : List Char
  /-- Whether the exponent is below zero, and its digits. -/
  exponent : Option (Bool × List Char)
deriving DecidableEq, Repr

/-- What a number literal stands for. -/
inductive Number where
  | int (n : Int)
  | float (x : Binary)
deriving DecidableEq, Repr

namespace Numeral

/-- The value of a decimal digit. -/
def digit (c : Char) : Nat := c.toNat - '0'.toNat

/-- The number a list of digits stands for. -/
def natOf (ds : List Char) : Nat := ds.foldl (fun n c => 10 * n + digit c) 0

/-- The whole part: a zero alone, or digits that start with another. -/
def scanWhole (cs : List Char) : Option (List Char × List Char) :=
  match cs with
  | '0' :: rest => if (rest.head?.map Char.isDigit).getD false then none else some (['0'], rest)
  | _ =>
    let ds := cs.takeWhile Char.isDigit
    if ds.isEmpty then none else some (ds, cs.dropWhile Char.isDigit)

/-- The fraction: a point and at least one digit, or nothing. -/
def scanFraction : List Char → Option (List Char × List Char)
  | '.' :: rest =>
    let ds := rest.takeWhile Char.isDigit
    if ds.isEmpty then none else some (ds, rest.dropWhile Char.isDigit)
  | cs => some ([], cs)

/-- The digits of an exponent, at least one. -/
def scanExponentDigits (negative : Bool) (cs : List Char) :
    Option (Option (Bool × List Char) × List Char) :=
  let ds := cs.takeWhile Char.isDigit
  if ds.isEmpty then none else some (some (negative, ds), cs.dropWhile Char.isDigit)

/-- The exponent: an `e` of either case, a sign or none, digits; or nothing. -/
def scanExponent : List Char → Option (Option (Bool × List Char) × List Char)
  | c :: rest =>
    if c = 'e' ∨ c = 'E' then
      match rest with
      | '+' :: rest' => scanExponentDigits false rest'
      | '-' :: rest' => scanExponentDigits true rest'
      | _ => scanExponentDigits false rest
    else some (none, c :: rest)
  | [] => some (none, [])

/-- Read a literal from the front of a text; `none` if none stands there. -/
def scan (cs : List Char) : Option (Numeral × List Char) := do
  let (negative, cs) := match cs with
    | '-' :: rest => (true, rest)
    | _ => (false, cs)
  let (whole, cs) ← scanWhole cs
  let (fraction, cs) ← scanFraction cs
  let (exponent, cs) ← scanExponent cs
  pure (⟨negative, whole, fraction, exponent⟩, cs)

/-- Add digits to a significand as long as it fits sixty-four bits; the digits left over. -/
def accumulate : Nat → List Char → Nat × List Char
  | n, [] => (n, [])
  | n, c :: rest =>
    let m := 10 * n + digit c
    if m ≤ 0xFFFFFFFFFFFFFFFF then accumulate m rest else (n, c :: rest)

/-- A power of ten as a double. -/
def powerOfTen (k : Nat) : Binary := Binary.ofDecimal .double false 1 k

/-- The double nearest to a product. -/
def mul : Binary → Binary → Binary
  | .finite s m q, .finite t n r =>
    let a := Binary.ratio m q
    let b := Binary.ratio n r
    Binary.ofRatio .double (s != t) (a.1 * b.1) (a.2 * b.2)
  | _, _ => .nan

/-- The double nearest to a quotient by a positive number. -/
def div : Binary → Binary → Binary
  | .finite s m q, .finite t n r =>
    let a := Binary.ratio m q
    let b := Binary.ratio n r
    Binary.ofRatio .double (s != t) (a.1 * b.2) (a.2 * b.1)
  | _, _ => .nan

/-- Whether a number is zero. -/
def isZero : Binary → Bool
  | .finite _ 0 _ => true
  | _ => false

/-- Scale by a power of ten of at most 308 at a time; `none` beyond the greatest double.  Three
steps down bring every double to zero. -/
def scale : Nat → Binary → Int → Option Binary
  | steps, x, e =>
    if e.natAbs ≤ 308 then
      if 0 ≤ e then
        let y := mul x (powerOfTen e.natAbs)
        if y.isFinite then some y else none
      else some (div x (powerOfTen e.natAbs))
    else if isZero x then some x
    else if 0 ≤ e then none
    else match steps with
      | 0 => some x
      | steps + 1 => scale steps (div x (powerOfTen 308)) (e + 308)

/-- The double of a significand and a power of ten, with a sign. -/
def double? (negative : Bool) (significand : Nat) (e : Int) : Option Binary :=
  (scale 4 (Binary.ofInt .double significand) e).map fun
    | .finite _ m q => .finite negative m q
    | x => x

/-- The greatest exponent of ten that a literal may write. -/
def exponentLimit : Nat := 0x7FFFFFFF

/-- The number a literal stands for; `none` if it lies beyond the greatest double. -/
def value? (n : Numeral) : Option Number :=
  let (significand, dropped) := accumulate 0 n.whole
  match n.fraction, n.exponent with
  | [], none =>
    if dropped.isEmpty then
      if !n.negative then some (.int significand)
      else if 0 < significand ∧ significand ≤ 0x8000000000000000 then some (.int (-significand))
      else some (.float (match Binary.ofInt .double significand with
        | .finite _ m q => .finite true m q
        | x => x))
    else (double? n.negative significand dropped.length).map .float
  | fraction, exponent =>
    let (significand, unread) := accumulate significand fraction
    let point : Int := dropped.length - ((fraction.length - unread.length : Nat) : Int)
    match exponent with
    | none => (double? n.negative significand point).map .float
    | some (below, ds) =>
      let e := natOf ds
      if exponentLimit < e then
        if !below && significand != 0 then none
        else some (.float (.finite n.negative 0 BinaryFormat.double.least))
      else (double? n.negative significand (if below then point - e else point + e)).map .float

end Numeral
end OfflineChat
