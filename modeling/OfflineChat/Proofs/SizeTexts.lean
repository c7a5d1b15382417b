import Mathlib.Algebra.Order.Field.Basic
import Mathlib.Data.Rat.Cast.Order
import OfflineChat.Media
import OfflineChat.Number.Decimal
import OfflineChat.Text.Split

/-! # Sizes read off their texts

What the text of a size says: a decimal number and a unit, and so a number of bytes
(`SizeText.read?`).  The number of a size in bytes has no point, and that of any other
has one digit behind its point; both are read back as they were written
(`SizeText.read?_text_byte`, `SizeText.read?_text`).
-/
namespace OfflineChat

/-! ## Digits -/

namespace Decimal

theorem digits?_eq_some {ds : List Char} (hne : ds ≠ []) (hdigits : ∀ c ∈ ds, c.isDigit = true) :
    digits? ds = some (Nat.ofDigitChars 10 ds 0) := by
  have hnonempty : ds.isEmpty = false := List.isEmpty_eq_false_iff.mpr hne
  rw [digits?, hnonempty, List.all_eq_true.mpr hdigits]
  rfl

theorem isDigit_of_mem_toDigits {n : ℕ} {c : Char} (h : c ∈ Nat.toDigits 10 n) :
    c.isDigit = true :=
  Nat.isDigit_of_mem_toDigits (by decide) (by decide) h

theorem digits?_toDigits (n : ℕ) : digits? (Nat.toDigits 10 n) = some n := by
  rw [digits?_eq_some Nat.toDigits_ne_nil fun _ => isDigit_of_mem_toDigits,
    Nat.ofDigitChars_ten_toDigits]

/-- A digit behind a number is its last digit. -/
theorem digits?_toDigits_append {d : ℕ} (n : ℕ) (hd : d < 10) :
    digits? (Nat.toDigits 10 n ++ Nat.toDigits 10 d) = some (10 * n + d) := by
  rw [digits?_eq_some (by simp [Nat.toDigits_ne_nil]), Nat.ofDigitChars_append,
    Nat.ofDigitChars_ten_toDigits, Nat.ofDigitChars_eq_ofDigitChars_zero,
    Nat.ofDigitChars_ten_toDigits, Nat.toDigits_of_lt_base hd]
  · rfl
  · intro c hc
    rcases List.mem_append.mp hc with hc | hc <;> exact isDigit_of_mem_toDigits hc

theorem notMem_toDigits {c : Char} (hc : c.isDigit = false) (n : ℕ) : c ∉ Nat.toDigits 10 n := by
  intro hmem
  rw [isDigit_of_mem_toDigits hmem] at hc
  cases hc

end Decimal

/-! ## Sizes -/

/-- The unit that a sign stands for. -/
def SizeUnit.ofName? (name : String) : Option SizeUnit :=
  [.byte, .kilo, .mega, .giga].find? fun unit => unit.name == name

theorem SizeUnit.ofName?_name (unit : SizeUnit) : ofName? unit.name = some unit := by
  cases unit <;> rfl

/-- What the text of a size says: the digits of a number, how many of them stand behind its point,
and a unit. -/
structure SizeText where
  digits : ℕ
  places : ℕ
  unit : SizeUnit
deriving DecidableEq, Repr

namespace SizeText

/-- The number that stands in the text. -/
def number (t : SizeText) : ℚ := t.digits / 10 ^ t.places

/-- The bytes that the text names. -/
def bytes (t : SizeText) : ℚ := t.number * t.unit.bytes

/-- Digits, perhaps with a point among them: the digits as one number, and how many of them stand
behind the point. -/
def readNumber? (cs : List Char) : Option (ℕ × ℕ) :=
  match Text.splitOn '.' cs with
  | [whole] => (Decimal.digits? whole).map (·, 0)
  | [whole, part] =>
    if whole.isEmpty || part.isEmpty then none
    else (Decimal.digits? (whole ++ part)).map (·, part.length)
  | _ => none

/-- What a text says, if it is a number, a blank and the sign of a unit. -/
def read? (s : String) : Option SizeText :=
  match Text.splitOn ' ' s.toList with
  | [number, name] =>
    (readNumber? number).bind fun n =>
      (SizeUnit.ofName? (String.ofList name)).map fun unit => ⟨n.1, n.2, unit⟩
  | _ => none

theorem readNumber?_whole (n : ℕ) : readNumber? (Nat.toDigits 10 n) = some (n, 0) := by
  have hwhole := Text.splitOn_of_notMem (Decimal.notMem_toDigits (c := '.') (by decide) n)
  simp only [readNumber?, hwhole, Decimal.digits?_toDigits, Option.map_some]

theorem readNumber?_point {d : ℕ} (n : ℕ) (hd : d < 10) :
    readNumber? (Nat.toDigits 10 n ++ '.' :: Nat.toDigits 10 d) = some (10 * n + d, 1) := by
  have hwhole := Text.splitOn_of_notMem (Decimal.notMem_toDigits (c := '.') (by decide) n)
  have hpart := Text.splitOn_of_notMem (Decimal.notMem_toDigits (c := '.') (by decide) d)
  rw [readNumber?, Text.splitOn_append, hwhole, hpart]
  have hnonempty {k : ℕ} : (Nat.toDigits 10 k).isEmpty = false :=
    List.isEmpty_eq_false_iff.mpr Nat.toDigits_ne_nil
  simp only [List.singleton_append, hnonempty, Bool.or_self, Bool.false_eq_true, ↓reduceIte,
    Decimal.digits?_toDigits_append n hd, Option.map_some]
  rw [Nat.toDigits_of_lt_base hd]
  rfl

/-- A number and a unit are read apart at the blank between them. -/
theorem read?_of_readNumber? {number : List Char} {n places : ℕ} (unit : SizeUnit)
    (hblank : ' ' ∉ number) (h : readNumber? number = some (n, places)) :
    read? (String.ofList number ++ " " ++ unit.name) = some ⟨n, places, unit⟩ := by
  have hname : ' ' ∉ unit.name.toList := by cases unit <;> decide
  have hlist : (String.ofList number ++ " " ++ unit.name).toList =
      number ++ ' ' :: unit.name.toList := by simp
  rw [read?, hlist, Text.splitOn_append, Text.splitOn_of_notMem hblank,
    Text.splitOn_of_notMem hname]
  simp only [List.singleton_append, h, Option.bind_some, String.ofList_toList,
    SizeUnit.ofName?_name, Option.map_some]

/-- **A number of bytes is read back.** -/
theorem read?_text_byte (n : ℕ) : read? (ShownSize.text ⟨10 * n, .byte⟩) = some ⟨n, 0, .byte⟩ := by
  have htext : ShownSize.text ⟨10 * n, .byte⟩ =
      String.ofList (Nat.toDigits 10 n) ++ " " ++ SizeUnit.byte.name := by
    rw [← String.toList_inj]
    simp [ShownSize.text]
  rw [htext]
  exact read?_of_readNumber? .byte (Decimal.notMem_toDigits (by decide) n) (readNumber?_whole n)

/-- **A size in a greater unit is read back**, with its one digit behind the point. -/
theorem read?_text {s : ShownSize} (h : s.unit ≠ .byte) :
    read? s.text = some ⟨s.tenths, 1, s.unit⟩ := by
  obtain ⟨tenths, unit⟩ := s
  have hlast : tenths % 10 < 10 := Nat.mod_lt _ (by decide)
  have htext : ShownSize.text ⟨tenths, unit⟩ =
      String.ofList (Nat.toDigits 10 (tenths / 10) ++ '.' :: Nat.toDigits 10 (tenths % 10)) ++
        " " ++ unit.name := by
    cases unit with
    | byte => exact absurd rfl h
    | kilo | mega | giga =>
      rw [← String.toList_inj]
      simp [ShownSize.text]
  have hblank : ' ' ∉ Nat.toDigits 10 (tenths / 10) ++ '.' :: Nat.toDigits 10 (tenths % 10) := by
    simp only [List.mem_append, List.mem_cons, not_or]
    exact ⟨Decimal.notMem_toDigits (by decide) _, by decide, Decimal.notMem_toDigits (by decide) _⟩
  have hread := readNumber?_point (tenths / 10) hlast
  rw [Nat.div_add_mod] at hread
  rw [htext]
  exact read?_of_readNumber? unit hblank hread

end SizeText
end OfflineChat
