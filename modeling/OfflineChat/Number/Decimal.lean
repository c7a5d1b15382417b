import OfflineChat.Number.Binary

/-! # Numbers in plain text

Reading a whole text as a natural or as a binary number: an optional sign,
digits, and for a binary number a point, an exponent, or the words for an
infinity and for no number.  Nothing may stand before or after.
-/
namespace OfflineChat
namespace Decimal

/-- The number a list of digits stands for. -/
def natOf (ds : List Char) : Nat := ds.foldl (fun n c => 10 * n + (c.toNat - '0'.toNat)) 0

/-- A list of at least one decimal digit as a number. -/
def digits? (cs : List Char) : Option Nat :=
  if !cs.isEmpty && cs.all Char.isDigit then some (natOf cs) else none

/-- A natural of at most `limit`; a plus sign may stand before it. -/
def natural? (limit : Nat) (s : String) : Option Nat :=
  let cs := match s.toList with
    | '+' :: rest => rest
    | cs => cs
  (digits? cs).filter (· ≤ limit)

/-- The exponent at the end of a number, if there is one. -/
def exponent? : List Char → Option Int
  | [] => some 0
  | c :: rest =>
    if c = 'e' ∨ c = 'E' then
      match rest with
      | '-' :: ds => (digits? ds).map fun n => -(n : Int)
      | '+' :: ds => (digits? ds).map Int.ofNat
      | ds => (digits? ds).map Int.ofNat
    else none

/-- The number of a format nearest to `digits · 10^exponent`, where an exponent far beyond the
format stands for zero or an infinity. -/
def nearest (f : BinaryFormat) (negative : Bool) (digits : Nat) (places : Nat) (exponent : Int) :
    Binary :=
  if digits = 0 then .finite negative 0 f.least
  else if 2000 < exponent then .infinite negative
  else if exponent + places < -2000 then .finite negative 0 f.least
  else Binary.ofDecimal f negative digits exponent

/-- A number with a fraction or an exponent. -/
def unsigned? (f : BinaryFormat) (negative : Bool) (cs : List Char) : Option Binary :=
  let whole := cs.takeWhile Char.isDigit
  let rest := cs.dropWhile Char.isDigit
  let (part, rest) := match rest with
    | '.' :: r => (r.takeWhile Char.isDigit, r.dropWhile Char.isDigit)
    | _ => ([], rest)
  let ds := whole ++ part
  if ds.isEmpty then none
  else (exponent? rest).map fun e => nearest f negative (natOf ds) ds.length (e - part.length)

/-- The words for an infinity and for no number, in lower case. -/
def word? (negative : Bool) (s : String) : Option Binary :=
  if s = "inf" ∨ s = "infinity" then some (.infinite negative)
  else if s = "nan" then some .nan
  else none

/-- A binary number. -/
def binary? (f : BinaryFormat) (s : String) : Option Binary :=
  let (negative, cs) := match s.toList with
    | '-' :: rest => (true, rest)
    | '+' :: rest => (false, rest)
    | cs => (false, cs)
  match word? negative (String.ofList (cs.map Char.toLower)) with
  | some x => some x
  | none => unsigned? f negative cs

end Decimal
end OfflineChat
