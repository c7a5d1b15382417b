/-! # Punycode

Characters beyond ASCII written with letters and digits, as the labels of
domain names need it.  The ASCII characters come first; after the last hyphen
each other character follows, in the order of its number, as the distance from
the one before it.  A distance is a number whose base changes from digit to
digit with a bias, and the bias adapts to the distances written so far.
-/
namespace OfflineChat
namespace Punycode

/-- The state of reading or writing: the least character not dealt with, the distance run up, the
bias, and whether no distance was written yet. -/
structure State where
  next : Nat
  distance : Nat
  bias : Nat
  first : Bool

/-- The state at the start. -/
def State.initial : State := ⟨128, 0, 72, true⟩

/-- The digit of a number below thirty-six. -/
def digit (n : Nat) : Char :=
  if n < 26 then Char.ofNat ('a'.toNat + n) else Char.ofNat ('0'.toNat + (n - 26))

/-- The number of a digit. -/
def digitValue? (c : Char) : Option Nat :=
  if 'a' ≤ c ∧ c ≤ 'z' then some (c.toNat - 'a'.toNat)
  else if 'A' ≤ c ∧ c ≤ 'Z' then some (c.toNat - 'A'.toNat)
  else if '0' ≤ c ∧ c ≤ '9' then some (c.toNat - '0'.toNat + 26)
  else none

/-- The value at which the digit in place `place` ends a number. -/
def threshold (bias place : Nat) : Nat :=
  let k := 36 * (place + 1)
  if k ≤ bias + 1 then 1 else if bias + 26 ≤ k then 26 else k - bias

theorem threshold_bounds (bias place : Nat) :
    1 ≤ threshold bias place ∧ threshold bias place ≤ 26 := by
  unfold threshold; dsimp only; split
  · omega
  · split <;> omega

/-- Bring a distance down below a bound, and count the steps. -/
def scaleDown (distance : Nat) : Nat × Nat :=
  if h : 455 < distance then
    let r := scaleDown (distance / 35)
    (r.1, r.2 + 1)
  else (distance, 0)
termination_by distance
decreasing_by exact Nat.div_lt_self (by omega) (by omega)

/-- The bias after a distance, with so many characters dealt with. -/
def adapt (distance count : Nat) (first : Bool) : Nat :=
  let d := if first then distance / 700 else distance / 2
  let r := scaleDown (d + d / count)
  36 * r.2 + 36 * r.1 / (r.1 + 38)

/-! ## Writing -/

/-- The digits of a distance, from place `place` on. -/
def digits (bias place distance : Nat) : List Char :=
  let t := threshold bias place
  if distance < t then [digit distance]
  else digit (t + (distance - t) % (36 - t)) ::
    digits bias (place + 1) ((distance - t) / (36 - t))
termination_by distance
decreasing_by
  have := threshold_bounds bias place
  exact Nat.lt_of_le_of_lt (Nat.div_le_self _ _) (by omega)

/-- Go through the text once for the character number `m`: write the distance at each place where
it stands. -/
def passOver (m : Nat) : List Char → Nat → State → List Char × Nat × State
  | [], done, s => ([], done, s)
  | c :: rest, done, s =>
    if c.toNat < m then passOver m rest done { s with distance := s.distance + 1 }
    else if c.toNat = m then
      let r := passOver m rest (done + 1)
        ⟨s.next, 0, adapt s.distance (done + 1) s.first, false⟩
      (digits s.bias 0 s.distance ++ r.1, r.2)
    else passOver m rest done s

/-- Write the characters with the given numbers, which increase. -/
def writeAll (text : List Char) : List Nat → Nat → State → List Char
  | [], _, _ => []
  | m :: rest, done, s =>
    let r := passOver m text done
      { s with distance := s.distance + (m - s.next) * (done + 1) }
    r.1 ++ writeAll text rest r.2.1
      { r.2.2 with next := m + 1, distance := r.2.2.distance + 1 }

/-- The written form of a text. -/
def encode (text : List Char) : List Char :=
  let ascii := text.filter (·.toNat < 128)
  let others := ((text.map Char.toNat).filter (128 ≤ ·)).mergeSort.eraseDups
  ascii ++ (if ascii.isEmpty then [] else ['-']) ++
    writeAll text others ascii.length .initial

/-! ## Reading -/

/-- Read a distance, from place `place` on; `weight` is what a digit there counts. -/
def distance? (bias : Nat) : Nat → Nat → List Char → Option (Nat × List Char)
  | _, _, [] => none
  | place, weight, c :: rest =>
    match digitValue? c with
    | none => none
    | some d =>
      let t := threshold bias place
      if d < t then some (d * weight, rest)
      else (distance? bias (place + 1) (weight * (36 - t)) rest).map fun r =>
        (d * weight + r.1, r.2)

/-- Put an element into a list at a place. -/
def insertAt (place : Nat) (c : Char) (cs : List Char) : List Char :=
  cs.take place ++ c :: cs.drop place

/-- Read one distance after the other; at most `fuel`. -/
def readAll : Nat → State → List Char → List Char → Option (List Char)
  | _, _, out, [] => some out
  | 0, _, _, _ => none
  | fuel + 1, s, out, cs =>
    match distance? s.bias 0 1 cs with
    | none => none
    | some (d, rest) =>
      let at' := s.distance + d
      let count := out.length + 1
      let n := s.next + at' / count
      let place := at' % count
      if n.isValidChar then
        readAll fuel ⟨n, place + 1, adapt d count s.first, false⟩
          (insertAt place (Char.ofNat n) out) rest
      else none

/-- The text of a written form. -/
def decode (cs : List Char) : Option (List Char) :=
  let back := cs.reverse
  let (ascii, rest) := match back.dropWhile (· != '-') with
    | _ :: front => (front.reverse, (back.takeWhile (· != '-')).reverse)
    | [] => ([], cs)
  if ascii.all (·.toNat < 128) then readAll rest.length .initial ascii rest else none

end Punycode
end OfflineChat
