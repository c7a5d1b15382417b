import OfflineChat.Text.Utf8

/-! # Texts are ordered as their octets are

Texts are compared character by character, and what is stored of them is
compared octet by octet.  Both come to the same (`Text.encode_lt_encode`): the
octets of different characters part before either ends
(`Text.parts_utf8EncodeChar`), and where they part the lesser character has the
lesser octet.
-/
namespace OfflineChat
namespace Text

/-- Two sequences of octets part: behind a common beginning, the first goes on with a lesser octet
than the second. -/
inductive Parts : List UInt8 → List UInt8 → Prop
  | here {x y : UInt8} {l l' : List UInt8} (h : x < y) : Parts (x :: l) (y :: l')
  | later {x : UInt8} {l l' : List UInt8} (h : Parts l l') : Parts (x :: l) (x :: l')

variable {l l' : List UInt8}

/-- Sequences that have parted stay apart, whatever follows them. -/
theorem Parts.append (h : Parts l l') (u u' : List UInt8) : Parts (l ++ u) (l' ++ u') := by
  induction h with
  | here h => exact .here h
  | later _ ih => exact .later ih

theorem Parts.lt (h : Parts l l') : l < l' := by
  induction h with
  | here h => exact .rel h
  | later _ ih => exact .cons ih

theorem parts_ofNat_cons {m n : Nat} (hn : n < 256) (hle : m ≤ n) (h : m = n → Parts l l') :
    Parts (UInt8.ofNat m :: l) (UInt8.ofNat n :: l') := by
  by_cases heq : m = n
  · subst heq
    exact .later (h rfl)
  · refine .here ?_
    rw [UInt8.lt_iff_toNat_lt, UInt8.toNat_ofNat', UInt8.toNat_ofNat']
    omega

/-- **The octets of a lesser character part from those of a greater one.** -/
theorem parts_utf8EncodeChar {c d : Char} (h : c < d) :
    Parts (String.utf8EncodeChar c) (String.utf8EncodeChar d) := by
  have hlt : c.toNat < d.toNat := h
  have hvalid : d.toNat < 0xD800 ∨ 0xDFFF < d.toNat ∧ d.toNat < 0x110000 := d.valid
  unfold String.utf8EncodeChar
  rw [show c.val.toNat = c.toNat from rfl, show d.val.toNat = d.toNat from rfl]
  generalize c.toNat = m at *
  generalize d.toNat = n at *
  dsimp only
  -- the leading octet tells a shorter character from a longer one; two of one length are written
  -- to base 64 behind it, and part at one of their digits
  repeat' split
  all_goals repeat' first | omega | refine parts_ofNat_cons (by omega) (by omega) fun _ => ?_

/-- **A lesser text has the lesser octets.** -/
theorem encode_lt_encode {s t : String} (h : s < t) : encode s < encode t := by
  have hlist : s.toList < t.toList := h
  unfold encode
  generalize s.toList = cs at *
  generalize t.toList = ds at *
  induction hlist with
  | @nil d ds =>
    obtain ⟨b, bs, hb⟩ := List.exists_cons_of_ne_nil (String.utf8EncodeChar_ne_nil (c := d))
    rw [List.flatMap_cons, hb]
    exact .nil
  | rel hcd => exact ((parts_utf8EncodeChar hcd).append _ _).lt
  | cons _ ih =>
    rw [List.flatMap_cons, List.flatMap_cons]
    exact List.append_left_lt ih

end Text
end OfflineChat
