/-! # Binary floating-point numbers

A number of a binary interchange format is `m · 2^q` with at most `precision`
bits in `m`, an infinity, or no number at all.  `ofRatio` gives the number of
a format nearest to a quotient of naturals, with a tie going to the even
neighbour; all arithmetic is built from it.
-/
namespace OfflineChat

/-- The size of a binary format: bits of a mantissa, and the exponents of the last bit. -/
structure BinaryFormat where
  precision : Nat
  least : Int
  greatest : Int
deriving DecidableEq, Repr

namespace BinaryFormat

/-- Thirty-two bits: a mantissa of 24, exponents from -149. -/
def single : BinaryFormat := ⟨24, -149, 104⟩

/-- Sixty-four bits: a mantissa of 53, exponents from -1074. -/
def double : BinaryFormat := ⟨53, -1074, 971⟩

end BinaryFormat

/-- A number of a binary format. -/
inductive Binary where
  /-- `mantissa · 2^exponent`, below zero if `negative` -/
  | finite (negative : Bool) (mantissa : Nat) (exponent : Int)
  | infinite (negative : Bool)
  | nan
deriving DecidableEq, Repr, Inhabited

/-- The natural nearest to `num / den`; a tie goes to the even one. -/
def divNearestEven (num den : Nat) : Nat :=
  let q := num / den
  let r := num % den
  if 2 * r < den then q
  else if den < 2 * r then q + 1
  else if q % 2 = 0 then q else q + 1

namespace Binary

/-- The exponent of the last bit with which `num / den` has `precision` bits. -/
def scaleOf (precision num den : Nat) : Int :=
  let q : Int := (num.log2 : Int) - (den.log2 : Int) - (precision : Int)
  let full : Nat := precision
  if 0 ≤ q then
    if den * Nat.pow 2 (q.toNat + full) ≤ num then q + 1 else q
  else
    if den * Nat.pow 2 full ≤ num * Nat.pow 2 (-q).toNat then q + 1 else q

/-- The natural nearest to `num / den / 2^q`. -/
def mantissaAt (num den : Nat) (q : Int) : Nat :=
  if 0 ≤ q then divNearestEven num (den * Nat.pow 2 q.toNat)
  else divNearestEven (num * Nat.pow 2 (-q).toNat) den

/-- The number of a format nearest to `num / den`, with the given sign. -/
def ofRatio (f : BinaryFormat) (negative : Bool) (num den : Nat) : Binary :=
  if num = 0 then .finite negative 0 f.least
  else
    let q := max (scaleOf f.precision num den) f.least
    let m := mantissaAt num den q
    let (m, q) := if m = Nat.pow 2 f.precision then (Nat.pow 2 (f.precision - 1), q + 1) else (m, q)
    if f.greatest < q then .infinite negative else .finite negative m q

/-- The number of a format nearest to an integer. -/
def ofInt (f : BinaryFormat) (n : Int) : Binary :=
  ofRatio f (decide (n < 0)) n.natAbs 1

/-- The number of a format nearest to `digits · 10^exponent`. -/
def ofDecimal (f : BinaryFormat) (negative : Bool) (digits : Nat) (exponent : Int) : Binary :=
  if 0 ≤ exponent then ofRatio f negative (digits * Nat.pow 10 exponent.toNat) 1
  else ofRatio f negative digits (Nat.pow 10 (-exponent).toNat)

/-- A finite number as a quotient of naturals. -/
def ratio (mantissa : Nat) (exponent : Int) : Nat × Nat :=
  if 0 ≤ exponent then (mantissa * Nat.pow 2 exponent.toNat, 1)
  else (mantissa, Nat.pow 2 (-exponent).toNat)

/-- The number of another format nearest to this one. -/
def toFormat (f : BinaryFormat) : Binary → Binary
  | .finite s m q => let r := ratio m q; ofRatio f s r.1 r.2
  | .infinite s => .infinite s
  | .nan => .nan

/-- Whether the number is finite. -/
def isFinite : Binary → Bool
  | .finite .. => true
  | _ => false

/-- Whether the number lies between the naturals `0` and `n`, both included.  No number at all
and the infinities lie nowhere, and zero below zero is zero. -/
def isBetweenZeroAnd (n : Nat) : Binary → Bool
  | .finite s m q => let r := ratio m q; (m == 0 || !s) && decide (r.1 ≤ n * r.2)
  | _ => false

end Binary
end OfflineChat
