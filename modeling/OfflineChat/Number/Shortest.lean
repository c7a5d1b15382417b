import OfflineChat.Number.Binary

/-! # Shortest decimals

The fewest decimal digits that name a binary number: no shorter decimal lies in
the interval of reals that round to it, and of the decimals of that length the
nearest is taken.  `plain` writes them positionally, `scientific` leaves the
positional form where it would grow long.
-/
namespace OfflineChat
namespace Shortest

/-- A positive decimal `digits · 10^exponent`. -/
structure Decimal where
  digits : Nat
  exponent : Int
deriving DecidableEq, Repr

/-- The reals that round to `mantissa · 2^exponent`, as naturals over one denominator: the two
ends, the number itself, and the denominator.  The ends belong to it for an even mantissa. -/
structure Interval where
  low : Nat
  value : Nat
  high : Nat
  den : Nat
  closed : Bool

/-- The interval of a positive number of a format. -/
def interval (f : BinaryFormat) (m : Nat) (q : Int) : Interval :=
  let r := Binary.ratio 1 (q - 2)
  let below := if m = Nat.pow 2 (f.precision - 1) ∧ f.least < q then 1 else 2
  ⟨(4 * m - below) * r.1, 4 * m * r.1, (4 * m + 2) * r.1, r.2, m % 2 = 0⟩

namespace Interval

/-- Whether `num / den` lies in the interval. -/
def contains (i : Interval) (num den : Nat) : Bool :=
  let x := num * i.den
  if i.closed then decide (i.low * den ≤ x) && decide (x ≤ i.high * den)
  else decide (i.low * den < x) && decide (x < i.high * den)

/-- How far `num / den` is from the number, over `den * i.den`. -/
def distance (i : Interval) (num den : Nat) : Nat :=
  ((num * i.den : Int) - (i.value * den : Int)).natAbs

/-- The point of the grid of multiples of `10^k` that lies in the interval nearest to the
number, if one does; only the two neighbours of the number need a look. -/
def onGrid (i : Interval) (k : Int) : Option Nat :=
  let up := Nat.pow 10 k.toNat
  let down := Nat.pow 10 (-k).toNat
  let floor := (i.value * down) / (i.den * up)
  let hits := [floor, floor + 1].filter fun d => decide (0 < d) && i.contains (d * up) down
  match hits with
  | [a, b] =>
    let da := i.distance (a * up) down
    let db := i.distance (b * up) down
    some (if da < db then a else if db < da then b else if a % 2 = 0 then a else b)
  | a :: _ => some a
  | [] => none

/-- The first hit on the grids from the multiples of `10^k` down. -/
def search (i : Interval) : Nat → Int → Decimal
  | 0, k => ⟨i.value / i.den, k⟩
  | fuel + 1, k =>
    match i.onGrid k with
    | some d => ⟨d, k⟩
    | none => search i fuel (k - 1)

end Interval

/-- The least `k` with `num < 10^k · den`, found from a bound above it. -/
def magnitude (num den : Nat) : Int :=
  if den ≤ num then ((Nat.toDigits 10 (num / den)).length : Int)
  else
    let rec go : Nat → Nat → Int → Int
      | 0, _, k => k
      | fuel + 1, n, k => if den ≤ n * 10 then k else go fuel (n * 10) (k - 1)
    go (den.log2 + 1) num 0

/-- The fewest digits that name the positive number `m · 2^q`. -/
def ofBinary (f : BinaryFormat) (m : Nat) (q : Int) : Decimal :=
  let i := interval f m q
  i.search 20 (magnitude i.value i.den)

/-- The digits of a natural as characters. -/
def digitText (n : Nat) : List Char := Nat.toDigits 10 n

/-- Digits without their trailing zeros, and how many those were. -/
def dropZeros (ds : List Char) : List Char × Nat :=
  let kept := (ds.reverse.dropWhile (· == '0')).reverse
  (kept, ds.length - kept.length)

/-- Digits with a point `point` places from their left end. -/
def positional (ds : List Char) (point : Int) : List Char × List Char :=
  if point ≤ 0 then (['0'], List.replicate (-point).toNat '0' ++ ds)
  else
    let n := point.toNat
    (ds.take n ++ List.replicate (n - ds.length) '0', ds.drop n)

/-- The significant digits of a positive number, and the place of its point. -/
def significant (f : BinaryFormat) (m : Nat) (q : Int) : List Char × Int :=
  let d := ofBinary f m q
  let (ds, zeros) := dropZeros (digitText d.digits)
  (ds, d.exponent + zeros + ds.length)

/-- The sign of a text. -/
def signText (negative : Bool) : String := if negative then "-" else ""

/-- The text of a number with no exponent and no more digits than it needs. -/
def plain (f : BinaryFormat) : Binary → String
  | .finite s 0 _ => signText s ++ "0"
  | .finite s m q =>
    let (ds, point) := significant f m q
    let (whole, part) := positional ds point
    signText s ++ String.ofList whole ++ (if part.isEmpty then "" else "." ++ String.ofList part)
  | .infinite s => signText s ++ "inf"
  | .nan => "NaN"

/-- The exponent of a scientific form: a sign, then at least two digits. -/
def exponentText (e : Int) : String :=
  (if e < 0 then "e-" else "e+") ++ (if e.natAbs < 10 then "0" else "") ++ toString e.natAbs

/-- The text of a finite number with a point in it, positional from `0.00001` up to sixteen
digits before the point and scientific beyond. -/
def scientific (f : BinaryFormat) : Binary → String
  | .finite s 0 _ => signText s ++ "0.0"
  | .finite s m q =>
    let (ds, point) := significant f m q
    if -5 < point ∧ point ≤ 16 then
      let (whole, part) := positional ds point
      signText s ++ String.ofList whole ++ "." ++
        (if part.isEmpty then "0" else String.ofList part)
    else
      let rest := ds.drop 1
      signText s ++ String.ofList (ds.take 1) ++
        (if rest.isEmpty then "" else "." ++ String.ofList rest) ++ exponentText (point - 1)
  | .infinite s => signText s ++ "inf"
  | .nan => "NaN"

end Shortest
end OfflineChat
