/-! # UTF-8

Texts as octets and back.  `next` reads one character, or finds that the octets
at hand start none and says how many of them to skip; `decode?` refuses a
sequence with such a gap, and `decodeLossy` puts U+FFFD in its place.
-/
namespace OfflineChat
namespace Text

/-- The octets of a text. -/
def encode (s : String) : List UInt8 :=
  s.toList.flatMap String.utf8EncodeChar

/-- What a leading octet announces: the bits it carries, the least and the greatest octet
that may follow it, and how many octets follow that one. -/
structure Lead where
  bits : Nat
  least : UInt8
  greatest : UInt8
  more : Nat
deriving DecidableEq, Repr

/-- The leading octets of the sequences of two, three and four octets. -/
def lead? (b : UInt8) : Option Lead :=
  if 0xC2 ≤ b && b ≤ 0xDF then some ⟨b.toNat - 0xC0, 0x80, 0xBF, 0⟩
  else if b == 0xE0 then some ⟨0, 0xA0, 0xBF, 1⟩
  else if b == 0xED then some ⟨0xD, 0x80, 0x9F, 1⟩
  else if 0xE1 ≤ b && b ≤ 0xEF then some ⟨b.toNat - 0xE0, 0x80, 0xBF, 1⟩
  else if b == 0xF0 then some ⟨0, 0x90, 0xBF, 2⟩
  else if b == 0xF4 then some ⟨4, 0x80, 0x8F, 2⟩
  else if 0xF1 ≤ b && b ≤ 0xF3 then some ⟨b.toNat - 0xF0, 0x80, 0xBF, 2⟩
  else none

/-- Add `n` continuation octets to the bits read so far; `none` where one is lacking. -/
def continuation : Nat → Nat → List UInt8 → Option Nat × List UInt8
  | 0, bits, rest => (some bits, rest)
  | _ + 1, _, [] => (none, [])
  | n + 1, bits, b :: rest =>
    if 0x80 ≤ b && b ≤ 0xBF then continuation n (bits * 64 + (b.toNat - 0x80)) rest
    else (none, b :: rest)

/-- Read the character that starts with `b`, and give what follows it; `none` for a gap, which
ends before the first octet that cannot belong to the sequence. -/
def next (b : UInt8) (rest : List UInt8) : Option Char × List UInt8 :=
  if b < 0x80 then (some (Char.ofNat b.toNat), rest)
  else match lead? b, rest with
    | some l, c :: rest' =>
      if l.least ≤ c && c ≤ l.greatest then
        let r := continuation l.more (l.bits * 64 + (c.toNat - 0x80)) rest'
        (r.1.map Char.ofNat, r.2)
      else (none, rest)
    | _, _ => (none, rest)

theorem continuation_length (n bits : Nat) (bs : List UInt8) :
    (continuation n bits bs).2.length ≤ bs.length := by
  induction n generalizing bits bs with
  | zero => simp [continuation]
  | succ n ih =>
    cases bs with
    | nil => simp [continuation]
    | cons b rest =>
      simp only [continuation]
      split
      · exact Nat.le_succ_of_le (ih _ _)
      · simp

theorem next_length (b : UInt8) (rest : List UInt8) :
    (next b rest).2.length ≤ rest.length := by
  unfold next
  split
  · simp
  · split
    · split
      · exact Nat.le_succ_of_le (continuation_length _ _ _)
      · simp
    · simp

/-- The characters of an octet sequence, with `none` for each gap. -/
def scan : List UInt8 → List (Option Char)
  | [] => []
  | b :: rest => (next b rest).1 :: scan (next b rest).2
termination_by bs => bs.length
decreasing_by exact Nat.lt_succ_of_le (next_length b rest)

/-- The text of an octet sequence, if it is one. -/
def decode? (bs : List UInt8) : Option String :=
  ((scan bs).mapM id).map String.ofList

/-- The text of an octet sequence, with U+FFFD for each gap. -/
def decodeLossy (bs : List UInt8) : String :=
  String.ofList ((scan bs).map (·.getD '\uFFFD'))

end Text
end OfflineChat
