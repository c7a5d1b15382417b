import Mathlib.Algebra.Order.Field.Basic
import Mathlib.Data.Rat.Cast.Order
import Mathlib.Tactic.Linarith
import OfflineChat.Proofs.BinaryRounding
import OfflineChat.Proofs.SizeTexts

/-! # Sizes as people read them

A size is shown in the largest unit that is not above it, and there to one decimal
(`SizeText.Shows`).  From that alone follow how far the text is from the size
(`SizeText.Shows.abs_number_sub_le`), that a greater size is not shown as a smaller one, in
whatever units the two are (`SizeText.Shows.bytes_le`), and from which size on the number is
1024 or more (`SizeText.Shows.le_number_iff`).

The unit is found by a climb from one unit to the next (`ShownSize.climb_spec`).  The size
that is shown is that of the count of bytes as a double (`SizeText.read?_formatSize`).  Below
`2 ^ 53` bytes that is the count itself, beyond it is the double nearest to it
(`ShownSize.value?_ofInt_double`), and it is in the same unit
(`ShownSize.isLargestFor_toDouble_iff`).  The main statements are
`formatSize_accurate_and_monotone` and `formatSize_reaches_1024_iff`.
-/
namespace OfflineChat

/-! ## Units -/

namespace SizeUnit

variable {unit other : SizeUnit} {size : ℕ}

/-- The largest unit that is not above a size, or one byte if all are above it. -/
structure IsLargestFor (unit : SizeUnit) (size : ℕ) : Prop where
  le : unit.bytes ≤ size ∨ unit = .byte
  largest : ∀ other : SizeUnit, other.bytes ≤ size → other.bytes ≤ unit.bytes

theorem bytes_pos (unit : SizeUnit) : 0 < unit.bytes := by cases unit <;> decide

/-- A greater unit is at least 1024 times as large. -/
theorem eq_or_le_of_le (h : unit.bytes ≤ other.bytes) :
    unit = other ∨ unit ≠ .giga ∧ other ≠ .byte ∧ 1024 * unit.bytes ≤ other.bytes := by
  cases unit <;> cases other <;> revert h <;> decide

namespace IsLargestFor

theorem byte (h : size < 1024) : IsLargestFor .byte size := by
  refine ⟨.inr rfl, fun other hother => ?_⟩
  have hone : SizeUnit.byte.bytes = 1 := rfl
  have hpos : SizeUnit.byte.bytes ≤ other.bytes := other.bytes_pos
  rcases eq_or_le_of_le hpos with rfl | ⟨-, -, hle⟩
  · exact le_rfl
  · omega

/-- Below the unit above. -/
theorem lt (h : unit.IsLargestFor size) (hunit : unit ≠ .giga) : size < 1024 * unit.bytes := by
  by_contra hle
  obtain ⟨next, hnext⟩ : ∃ next : SizeUnit, next.bytes = 1024 * unit.bytes := by
    cases unit with
    | byte => exact ⟨.kilo, rfl⟩
    | kilo => exact ⟨.mega, rfl⟩
    | mega => exact ⟨.giga, rfl⟩
    | giga => exact absurd rfl hunit
  have hlarge := h.largest next (by omega)
  have hpos := bytes_pos unit
  omega

theorem bytes_le (h : unit.IsLargestFor size) (hunit : unit ≠ .byte) : unit.bytes ≤ size :=
  h.le.resolve_right hunit

/-- The counts that are less than a twentieth of their unit short of the unit above. -/
theorem almost_next_iff (h : unit.IsLargestFor size) :
    20479 * unit.bytes ≤ 20 * size ∧ unit ≠ .giga ↔
      1048525 ≤ size ∧ size < 1024 ^ 2 ∨ 1073689396 ≤ size ∧ size < 1024 ^ 3 := by
  cases unit with
  | byte =>
    have hlt := h.lt nofun
    simp only [bytes, ne_eq, reduceCtorEq, not_false_eq_true, and_true] at hlt ⊢
    omega
  | kilo =>
    have hlt := h.lt nofun
    have hle := h.bytes_le nofun
    simp only [bytes, ne_eq, reduceCtorEq, not_false_eq_true, and_true] at hlt hle ⊢
    omega
  | mega =>
    have hlt := h.lt nofun
    have hle := h.bytes_le nofun
    simp only [bytes, ne_eq, reduceCtorEq, not_false_eq_true, and_true] at hlt hle ⊢
    omega
  | giga =>
    have hle := h.bytes_le nofun
    simp only [bytes, ne_eq, not_true_eq_false, and_false, false_iff] at hle ⊢
    omega

end IsLargestFor
end SizeUnit

namespace ShownSize

variable {size : ℕ} {unit : SizeUnit} {above : List SizeUnit}

theorem le_of_mem_above (hsteps : (unit :: above).IsChain fun u v => v.bytes = 1024 * u.bytes)
    {other : SizeUnit} (h : other ∈ above) : 1024 * unit.bytes ≤ other.bytes := by
  induction above generalizing unit with
  | nil => cases h
  | cons next above ih =>
    obtain ⟨hnext, hrest⟩ := List.isChain_cons_cons.mp hsteps
    rcases List.mem_cons.mp h with rfl | h
    · exact hnext.ge
    · have hle := ih hrest h
      omega

/-- **A climb ends in the largest unit that is not above the size.** -/
theorem climb_spec (hsteps : (unit :: above).IsChain fun u v => v.bytes = 1024 * u.bytes)
    (h : unit.bytes ≤ size) :
    climb size unit above ∈ unit :: above ∧ (climb size unit above).bytes ≤ size ∧
      ∀ other ∈ unit :: above, other.bytes ≤ size →
        other.bytes ≤ (climb size unit above).bytes := by
  induction above generalizing unit with
  | nil =>
    refine ⟨List.mem_cons_self .., h, fun other hother _ => ?_⟩
    rw [List.mem_singleton.mp hother]
    exact le_rfl
  | cons next above ih =>
    by_cases hgo : 1024 * unit.bytes ≤ size
    · obtain ⟨hnext, hrest⟩ := List.isChain_cons_cons.mp hsteps
      obtain ⟨hmem, hle, hlargest⟩ := ih hrest (by omega)
      rw [climb, if_pos hgo]
      refine ⟨List.mem_cons_of_mem _ hmem, hle, fun other hother hsize => ?_⟩
      rcases List.mem_cons.mp hother with rfl | hother
      · have hreached := hlargest next (List.mem_cons_self ..) (by omega)
        omega
      · exact hlargest other hother hsize
    · rw [climb, if_neg hgo]
      refine ⟨List.mem_cons_self .., h, fun other hother hsize => ?_⟩
      rcases List.mem_cons.mp hother with rfl | hother
      · exact le_rfl
      · have hlarge := le_of_mem_above hsteps hother
        omega

theorem isLargestFor_unitOf (h : 1024 ≤ size) :
    (unitOf size).IsLargestFor size ∧ unitOf size ≠ .byte := by
  have hsteps : [SizeUnit.kilo, .mega, .giga].IsChain fun u v => v.bytes = 1024 * u.bytes := by
    simp [SizeUnit.bytes]
  obtain ⟨hmem, hle, hlargest⟩ := climb_spec hsteps h
  refine ⟨⟨.inl hle, fun other hother => ?_⟩, fun hbyte => ?_⟩
  · cases other with
    | byte => exact SizeUnit.bytes_pos _
    | kilo | mega | giga => exact hlargest _ (by simp) hother
  · rw [unitOf] at hbyte
    rw [hbyte] at hmem
    simp at hmem

/-! ## Counts as doubles -/

variable {a b n : ℕ}

/-- A count of at most fifty-three bits is a double. -/
theorem toDouble_of_lt (h : n < 2 ^ 53) : toDouble n = n := by
  have hdropped : n.log2 - 52 = 0 := by
    rcases Nat.eq_zero_or_pos n with rfl | hn
    · decide
    · have hbits := (Nat.log2_lt hn.ne').mpr h
      omega
  rw [toDouble, hdropped]
  exact (Nat.mul_one _).trans (divNearestEven_one n)

/-- Bits are dropped, and those that are kept are rounded. -/
theorem isNearestEven_toDouble (n : ℕ) :
    ∃ m, toDouble n = m * 2 ^ (n.log2 - 52) ∧ IsNearestEven m (n / 2 ^ (n.log2 - 52)) := by
  have hnear := isNearestEven_divNearestEven n (Nat.two_pow_pos (n.log2 - 52))
  rw [Nat.cast_pow, Nat.cast_ofNat] at hnear
  exact ⟨_, rfl, hnear⟩

/-- No power of two is passed by rounding. -/
theorem toDouble_bounds (hn : n ≠ 0) : 2 ^ n.log2 ≤ toDouble n ∧ toDouble n ≤ 2 ^ (n.log2 + 1) := by
  obtain ⟨m, hm, hnear⟩ := isNearestEven_toDouble n
  obtain ⟨kept, hkept⟩ : ∃ kept, n.log2 = kept + (n.log2 - 52) := ⟨n.log2 - (n.log2 - 52), by omega⟩
  generalize n.log2 - 52 = dropped at *
  have hpos : (0 : ℚ) < 2 ^ dropped := pow_pos two_pos _
  have hlo : 2 ^ kept ≤ m := by
    refine hnear.natCast_le ?_
    rw [le_div_iff₀ hpos]
    have hself := Nat.log2_self_le hn
    rw [hkept, pow_add] at hself
    exact_mod_cast hself
  have hhi : m ≤ 2 ^ (kept + 1) := by
    refine hnear.le_natCast ?_
    rw [div_le_iff₀ hpos]
    have hself := (Nat.lt_log2_self (n := n)).le
    rw [hkept, add_right_comm, pow_add] at hself
    exact_mod_cast hself
  rw [hm, hkept, pow_add, add_right_comm, pow_add _ (kept + 1)]
  exact ⟨Nat.mul_le_mul_right _ hlo, Nat.mul_le_mul_right _ hhi⟩

/-- **A greater count is no smaller double.** -/
theorem toDouble_mono (h : a ≤ b) : toDouble a ≤ toDouble b := by
  rcases Nat.eq_zero_or_pos a with rfl | ha
  · rw [toDouble_of_lt (by decide)]
    exact Nat.zero_le _
  · have hlog : a.log2 ≤ b.log2 := (Nat.le_log2 (by omega)).mpr ((Nat.log2_self_le ha.ne').trans h)
    rcases hlog.eq_or_lt with hsame | hless
    · -- the same bits are dropped of both
      obtain ⟨m, hm, hnear⟩ := isNearestEven_toDouble a
      obtain ⟨m', hm', hnear'⟩ := isNearestEven_toDouble b
      rw [hsame] at hm hnear
      rw [hm, hm']
      refine Nat.mul_le_mul_right _ (hnear.mono hnear' ?_)
      have hcast : (a : ℚ) ≤ b := Nat.cast_le.mpr h
      exact div_le_div_of_nonneg_right hcast (pow_pos two_pos _).le
    · calc toDouble a ≤ 2 ^ (a.log2 + 1) := (toDouble_bounds ha.ne').2
        _ ≤ 2 ^ b.log2 := Nat.pow_le_pow_right two_pos hless
        _ ≤ toDouble b := (toDouble_bounds (by omega)).1

/-- No bound up to `2 ^ 53` is passed by rounding. -/
theorem le_toDouble_iff {k : ℕ} (hk : k ≤ 2 ^ 53) : k ≤ toDouble n ↔ k ≤ n := by
  by_cases hn : n < 2 ^ 53
  · rw [toDouble_of_lt hn]
  · have hself : toDouble (2 ^ 53) = 2 ^ 53 := by decide
    have hmono := toDouble_mono (not_lt.mp hn)
    omega

theorem isLargestFor_toDouble_iff : unit.IsLargestFor (toDouble n) ↔ unit.IsLargestFor n := by
  have hbytes (u : SizeUnit) : u.bytes ≤ toDouble n ↔ u.bytes ≤ n :=
    le_toDouble_iff (by cases u <;> decide)
  constructor
  · rintro ⟨hle, hlargest⟩
    exact ⟨hle.imp_left (hbytes unit).mp, fun other h => hlargest other ((hbytes other).mpr h)⟩
  · rintro ⟨hle, hlargest⟩
    exact ⟨hle.imp_left (hbytes unit).mpr, fun other h => hlargest other ((hbytes other).mp h)⟩

/-- **The double nearest to a count** of sixty-four bits. -/
theorem value?_ofInt_double (h : n < 2 ^ 64) :
    (Binary.ofInt .double n).value? = some (toDouble n : ℚ) := by
  have hratio : Binary.ofInt .double n = Binary.ofRatio .double false n 1 := by
    rw [Binary.ofInt, decide_eq_false (by omega), Int.natAbs_natCast]
  rw [hratio]
  by_cases hn : n < 2 ^ 53
  · rw [Binary.value?_ofRatio_of_eq (m := n) (e := 0) Nat.one_pos (by decide) hn (by decide)
      (by decide) (by simp), toDouble_of_lt hn]
    simp
  · have hne : n ≠ 0 := by omega
    obtain ⟨dropped, hdropped⟩ : ∃ dropped, n.log2 = dropped + 52 :=
      ⟨n.log2 - 52, by have hbits := (Nat.le_log2 hne).mpr (not_lt.mp hn); omega⟩
    have hplace : (dropped : ℤ) = max (Binary.scaleOf 53 n 1) (-1074) := by
      rw [Binary.scaleOf_one 53 hne]
      omega
    have hsmall : dropped < 12 := by
      have hbits := (Nat.log2_lt hne).mpr h
      omega
    obtain ⟨m, hm, hnear⟩ := isNearestEven_toDouble n
    rw [hdropped, Nat.add_sub_cancel] at hm hnear
    have hnear' := Binary.isNearestEven_mantissaAt n Nat.one_pos dropped
    rw [Nat.cast_one, div_one, zpow_natCast] at hnear'
    have hfits : (dropped : ℤ) < BinaryFormat.double.greatest := by
      show (dropped : ℤ) < 971
      omega
    rw [Binary.value?_ofRatio hne (by decide) hplace hfits, hm, hnear'.unique hnear]
    simp

/-- A count as a double has the bits of a mantissa, and others are zero. -/
theorem exists_toDouble_eq (h : n < 2 ^ 64) :
    ∃ m e, m < 2 ^ 53 ∧ e ≤ 12 ∧ toDouble n = m * 2 ^ e := by
  by_cases hn : n < 2 ^ 53
  · exact ⟨n, 0, hn, by decide, by rw [toDouble_of_lt hn, pow_zero, mul_one]⟩
  · have hne : n ≠ 0 := by omega
    have hbits := (Nat.log2_lt hne).mpr h
    have hlog := (Nat.le_log2 hne).mpr (not_lt.mp hn)
    obtain ⟨m, hm, -⟩ := isNearestEven_toDouble n
    have hle := (toDouble_bounds hne).2
    obtain ⟨dropped, hdropped⟩ : ∃ dropped, n.log2 = dropped + 52 := ⟨n.log2 - 52, by omega⟩
    rw [hdropped, Nat.add_sub_cancel] at hm
    rw [hm, hdropped, add_assoc, pow_add, mul_comm (2 ^ dropped)] at hle
    rcases (Nat.le_of_mul_le_mul_right hle (Nat.two_pow_pos _)).eq_or_lt with hfull | hfits
    · -- one bit too many is one zero more
      refine ⟨2 ^ 52, dropped + 1, by decide, by omega, ?_⟩
      rw [hm, hfull]
      ring
    · exact ⟨m, dropped, hfits, by omega, hm⟩

/-- **A double in any unit is a double**, so no division is rounded. -/
theorem value?_ofRatio_bytes (h : n < 2 ^ 64) (unit : SizeUnit) :
    (Binary.ofRatio .double false (toDouble n) unit.bytes).value? =
      some (toDouble n / unit.bytes : ℚ) := by
  obtain ⟨m, e, hm, he, hdouble⟩ := exists_toDouble_eq h
  obtain ⟨place, hplace, hbytes⟩ : ∃ place : ℕ, place ≤ 30 ∧ unit.bytes = 2 ^ place := by
    cases unit with
    | byte => exact ⟨0, by decide, rfl⟩
    | kilo => exact ⟨10, by decide, rfl⟩
    | mega => exact ⟨20, by decide, rfl⟩
    | giga => exact ⟨30, by decide, rfl⟩
  have hquotient : (toDouble n : ℚ) / unit.bytes = m * 2 ^ ((e : ℤ) - place) := by
    rw [hdouble, hbytes, zpow_sub₀ two_ne_zero, zpow_natCast, zpow_natCast]
    push_cast
    rw [mul_div_assoc]
  have hleast : (-1074 : ℤ) ≤ e - place := by omega
  have hgreatest : (e : ℤ) - place < 971 := by omega
  rw [Binary.value?_ofRatio_of_eq (SizeUnit.bytes_pos unit) (by decide) hm hleast hgreatest
    hquotient]
  simp

theorem ofBytes_of_lt (h : n < 1024) : ofBytes n = ⟨10 * n, .byte⟩ := if_pos h

theorem ofBytes_of_le (h : 1024 ≤ n) :
    ofBytes n = ⟨divNearestEven (10 * toDouble n) (unitOf (toDouble n)).bytes,
      unitOf (toDouble n)⟩ :=
  if_neg (not_lt.mpr h)

end ShownSize

/-! ## Texts that show a size -/

namespace SizeText

variable {s t : SizeText} {size a b : ℕ}

/-- How a size is shown: in the largest unit that is not above it, as a whole number of bytes, or
with one digit behind the point as the number of tenths nearest to it. -/
structure Shows (t : SizeText) (size : ℕ) : Prop where
  isLargestFor : t.unit.IsLargestFor size
  whole : t.unit = .byte → t.places = 0 ∧ t.digits = size
  tenths : t.unit ≠ .byte → t.places = 1 ∧ IsNearestEven t.digits (10 * (size / t.unit.bytes))

namespace Shows

theorem number_of_byte (h : t.Shows size) (hunit : t.unit = .byte) : t.number = size := by
  obtain ⟨hplaces, hdigits⟩ := h.whole hunit
  rw [number, hplaces, hdigits, pow_zero, div_one]

theorem number_of_ne (h : t.Shows size) (hunit : t.unit ≠ .byte) : t.number = t.digits / 10 := by
  rw [number, (h.tenths hunit).1, pow_one]

/-- **The number is within a twentieth of the size in its unit.** -/
theorem abs_number_sub_le (h : t.Shows size) : |t.number - size / t.unit.bytes| ≤ 1 / 20 := by
  by_cases hunit : t.unit = .byte
  · have hone : ((SizeUnit.byte.bytes : ℕ) : ℚ) = 1 := Nat.cast_one
    rw [h.number_of_byte hunit, hunit, hone, div_one, sub_self, abs_zero]
    norm_num
  · obtain ⟨hlo, hhi⟩ := abs_le.mp (h.tenths hunit).2.near
    rw [h.number_of_ne hunit, abs_le]
    constructor <;> linarith

/-- A size of so many units is not shown as less. -/
theorem natCast_le_number {k : ℕ} (h : t.Shows size) (hk : k * t.unit.bytes ≤ size) :
    k ≤ t.number := by
  by_cases hbyte : t.unit = .byte
  · have hone : SizeUnit.byte.bytes = 1 := rfl
    rw [hbyte, hone, Nat.mul_one] at hk
    rw [h.number_of_byte hbyte]
    exact Nat.cast_le.mpr hk
  · have hquotient : (k : ℚ) ≤ size / t.unit.bytes := by
      rw [le_div_iff₀ (Nat.cast_pos.mpr t.unit.bytes_pos)]
      exact_mod_cast hk
    have hdigits : 10 * k ≤ t.digits := by
      refine (h.tenths hbyte).2.natCast_le ?_
      push_cast
      linarith
    have hcast : (10 : ℚ) * k ≤ t.digits := by exact_mod_cast hdigits
    rw [h.number_of_ne hbyte]
    linarith

/-- A size of so many units is not shown as more. -/
theorem number_le_natCast {k : ℕ} (h : t.Shows size) (hk : size ≤ k * t.unit.bytes) :
    t.number ≤ k := by
  by_cases hbyte : t.unit = .byte
  · have hone : SizeUnit.byte.bytes = 1 := rfl
    rw [hbyte, hone, Nat.mul_one] at hk
    rw [h.number_of_byte hbyte]
    exact Nat.cast_le.mpr hk
  · have hquotient : (size : ℚ) / t.unit.bytes ≤ k := by
      rw [div_le_iff₀ (Nat.cast_pos.mpr t.unit.bytes_pos)]
      exact_mod_cast hk
    have hdigits : t.digits ≤ 10 * k := by
      refine (h.tenths hbyte).2.le_natCast ?_
      push_cast
      linarith
    have hcast : (t.digits : ℚ) ≤ 10 * k := by exact_mod_cast hdigits
    rw [h.number_of_ne hbyte]
    linarith

/-- Below the greatest unit the number is at most that of one unit above. -/
theorem number_le (h : t.Shows size) (hunit : t.unit ≠ .giga) : t.number ≤ 1024 := by
  exact_mod_cast h.number_le_natCast (h.isLargestFor.lt hunit).le

/-- **The number is 1024 or more** if no more than a twentieth of a unit is missing to that. -/
theorem le_number_iff (h : t.Shows size) :
    1024 ≤ t.number ↔ 20479 * t.unit.bytes ≤ 20 * size := by
  have hpos : (0 : ℚ) < t.unit.bytes := Nat.cast_pos.mpr t.unit.bytes_pos
  by_cases hbyte : t.unit = .byte
  · -- whole bytes are not rounded, and a twentieth of a byte is less than one
    have hone : SizeUnit.byte.bytes = 1 := rfl
    rw [h.number_of_byte hbyte, hbyte, hone, Nat.ofNat_le_cast]
    omega
  · have hiff := (h.tenths hbyte).2.le_iff_of_even (k := 10240) (by decide)
    have hnumber : 1024 ≤ t.number ↔ 10240 ≤ t.digits := by
      rw [h.number_of_ne hbyte, le_div_iff₀ (by norm_num), ← Nat.ofNat_le_cast (α := ℚ)]
      norm_num
    rw [hnumber, hiff, ← Nat.cast_le (α := ℚ)]
    push_cast
    rw [← mul_div_assoc, le_div_iff₀ hpos]
    constructor <;> intro hle <;> linarith

/-- **A greater size is not shown as a smaller one**, in whatever units the two are shown. -/
theorem bytes_le (hs : s.Shows a) (ht : t.Shows b) (h : a ≤ b) : s.bytes ≤ t.bytes := by
  have hpos : (0 : ℚ) < t.unit.bytes := Nat.cast_pos.mpr t.unit.bytes_pos
  have hunits : s.unit.bytes ≤ t.unit.bytes := by
    rcases hs.isLargestFor.le with hle | hbyte
    · exact ht.isLargestFor.largest s.unit (hle.trans h)
    · rw [hbyte]
      exact t.unit.bytes_pos
  rcases SizeUnit.eq_or_le_of_le hunits with hsame | ⟨hs', ht', hless⟩
  · have hnumber : s.number ≤ t.number := by
      by_cases hbyte : t.unit = .byte
      · rw [hs.number_of_byte (hsame.trans hbyte), ht.number_of_byte hbyte]
        exact Nat.cast_le.mpr h
      · have hnear := (hs.tenths (hsame ▸ hbyte)).2
        rw [hsame] at hnear
        have hquotient : (a : ℚ) / t.unit.bytes ≤ b / t.unit.bytes :=
          div_le_div_of_nonneg_right (Nat.cast_le.mpr h) hpos.le
        have hdigits : (s.digits : ℚ) ≤ t.digits :=
          Nat.cast_le.mpr (hnear.mono (ht.tenths hbyte).2 (by linarith))
        rw [hs.number_of_ne (hsame ▸ hbyte), ht.number_of_ne hbyte]
        linarith
    rw [bytes, bytes, hsame]
    exact mul_le_mul_of_nonneg_right hnumber hpos.le
  · -- one of the greater unit lies between the two
    have hone : (1 : ℕ) ≤ t.number :=
      ht.natCast_le_number ((Nat.one_mul _).trans_le (ht.isLargestFor.bytes_le ht'))
    rw [Nat.cast_one] at hone
    calc s.bytes ≤ 1024 * s.unit.bytes :=
          mul_le_mul_of_nonneg_right (hs.number_le hs') (Nat.cast_nonneg _)
      _ ≤ 1 * t.unit.bytes := by
          rw [one_mul]
          exact_mod_cast hless
      _ ≤ t.bytes := mul_le_mul_of_nonneg_right hone hpos.le

end Shows

/-- **A count of bytes is shown** as the size that it is as a double. -/
theorem read?_formatSize (n : ℕ) :
    ∃ t, read? (formatSize n) = some t ∧ t.Shows (ShownSize.toDouble n) := by
  rcases Nat.lt_or_ge n 1024 with hn | hn
  · have hdouble : ShownSize.toDouble n = n := ShownSize.toDouble_of_lt (by omega)
    rw [formatSize, ShownSize.ofBytes_of_lt hn, hdouble]
    refine ⟨_, read?_text_byte n, .byte hn, fun _ => ⟨rfl, rfl⟩, fun hunit => absurd rfl hunit⟩
  · have hdouble : 1024 ≤ ShownSize.toDouble n := (ShownSize.le_toDouble_iff (by decide)).mpr hn
    obtain ⟨hlargest, hunit⟩ := ShownSize.isLargestFor_unitOf hdouble
    rw [formatSize, ShownSize.ofBytes_of_le hn]
    refine ⟨_, read?_text hunit, hlargest, fun hbyte => absurd hbyte hunit, fun _ => ⟨rfl, ?_⟩⟩
    have hnear := isNearestEven_divNearestEven (10 * ShownSize.toDouble n)
      (ShownSize.unitOf (ShownSize.toDouble n)).bytes_pos
    rwa [Nat.cast_mul, Nat.cast_ofNat, mul_div_assoc] at hnear

end SizeText

/-! ## Formatted sizes -/

/-- **Sizes are accurate and in order.**  Below `2 ^ 53` bytes the text shows the count: in the
largest unit that is not above it, exactly in bytes and otherwise rounded to one decimal, within a
twentieth of the unit.  A greater count is never shown as a smaller size.  Any count of sixty-four
bits is shown as the double nearest to it, in the largest unit that is not above the count; in this
unit it is a double as well, so that no division is rounded. -/
theorem formatSize_accurate_and_monotone :
    (∀ n < 2 ^ 53, ∃ t, SizeText.read? (formatSize n) = some t ∧ t.Shows n ∧
      |t.number - n / t.unit.bytes| ≤ 1 / 20) ∧
    (∀ a b, a ≤ b → ∃ s t, SizeText.read? (formatSize a) = some s ∧
      SizeText.read? (formatSize b) = some t ∧ s.bytes ≤ t.bytes) ∧
    ∀ n < 2 ^ 64, ∃ (t : SizeText) (d : ℕ), SizeText.read? (formatSize n) = some t ∧
      (Binary.ofInt .double n).value? = some (d : ℚ) ∧ t.Shows d ∧ t.unit.IsLargestFor n ∧
      (Binary.ofRatio .double false d t.unit.bytes).value? = some (d / t.unit.bytes : ℚ) := by
  refine ⟨fun n hn => ?_, fun a b hab => ?_, fun n hn => ?_⟩
  · obtain ⟨t, hread, hshows⟩ := SizeText.read?_formatSize n
    rw [ShownSize.toDouble_of_lt hn] at hshows
    exact ⟨t, hread, hshows, hshows.abs_number_sub_le⟩
  · obtain ⟨s, hs, hshows⟩ := SizeText.read?_formatSize a
    obtain ⟨t, ht, hshows'⟩ := SizeText.read?_formatSize b
    exact ⟨s, t, hs, ht, hshows.bytes_le hshows' (ShownSize.toDouble_mono hab)⟩
  · obtain ⟨t, hread, hshows⟩ := SizeText.read?_formatSize n
    exact ⟨t, ShownSize.toDouble n, hread, ShownSize.value?_ofInt_double hn, hshows,
      ShownSize.isLargestFor_toDouble_iff.mp hshows.isLargestFor,
      ShownSize.value?_ofRatio_bytes hn t.unit⟩

/-- Sizes on both sides of a megabyte, and the greatest count of sixty-four bits. -/
theorem formatSize_accurate_and_monotone_edges :
    formatSize 1048575 = "1024.0 KB" ∧ formatSize 1048576 = "1.0 MB" ∧
    formatSize (2 ^ 64 - 1) = "17179869184.0 GB" ∧
    (∃ t, SizeText.read? (formatSize 1048575) = some t ∧ t.Shows 1048575 ∧
      |t.number - (1048575 : ℕ) / t.unit.bytes| ≤ 1 / 20) ∧
    (∃ s t, SizeText.read? (formatSize 1048575) = some s ∧
      SizeText.read? (formatSize 1048576) = some t ∧ s.bytes ≤ t.bytes) ∧
    ∃ (t : SizeText) (d : ℕ), SizeText.read? (formatSize (2 ^ 64 - 1)) = some t ∧
      (Binary.ofInt .double (2 ^ 64 - 1 : ℕ)).value? = some (d : ℚ) ∧ t.Shows d ∧
      t.unit.IsLargestFor (2 ^ 64 - 1) ∧
      (Binary.ofRatio .double false d t.unit.bytes).value? = some (d / t.unit.bytes : ℚ) := by
  obtain ⟨haccurate, hmono, hdouble⟩ := formatSize_accurate_and_monotone
  exact ⟨by decide +kernel, by decide +kernel, by decide +kernel, haccurate 1048575 (by decide),
    hmono 1048575 1048576 (by decide), hdouble (2 ^ 64 - 1) (by decide)⟩

/-- **When a number is not below 1024.**  A size of 1024 or more of a unit is shown in the unit
above, if there is one.  But a size to which no more than a twentieth of its unit is missing is
rounded up to that.  So no number of bytes reaches 1024, and none of kilobytes or megabytes passes
it; 51 counts of bytes are shown as 1024 kilobytes, and 52428 as 1024 megabytes. -/
theorem formatSize_reaches_1024_iff (n : ℕ) :
    ∃ t, SizeText.read? (formatSize n) = some t ∧ t.unit.IsLargestFor n ∧
      (1024 ≤ t.number ↔ 20479 * t.unit.bytes ≤ 20 * n) ∧
      (t.number ≤ 1024 ∨ t.unit = .giga) ∧
      (1024 ≤ t.number ∧ t.unit ≠ .giga ↔
        1048525 ≤ n ∧ n < 1024 ^ 2 ∨ 1073689396 ≤ n ∧ n < 1024 ^ 3) := by
  obtain ⟨t, hread, hshows⟩ := SizeText.read?_formatSize n
  have hlargest := ShownSize.isLargestFor_toDouble_iff.mp hshows.isLargestFor
  have hreach : 1024 ≤ t.number ↔ 20479 * t.unit.bytes ≤ 20 * n := by
    -- the least count of bytes that is rounded up is one that rounding to a double does not pass
    have hbound : (20479 * t.unit.bytes + 19) / 20 ≤ 2 ^ 53 := by cases t.unit <;> decide
    have hdouble := ShownSize.le_toDouble_iff (n := n) hbound
    rw [hshows.le_number_iff]
    omega
  refine ⟨t, hread, hlargest, hreach, ?_, ?_⟩
  · by_cases hunit : t.unit = .giga
    · exact .inr hunit
    · exact .inl (hshows.number_le hunit)
  · rw [hreach]
    exact hlargest.almost_next_iff

/-- **A number of kilobytes can reach 1024**, so the unit above is not always taken. -/
theorem formatSize_shows_1024_kilobytes :
    formatSize 1048575 = "1024.0 KB" ∧
      ¬ ∀ n < 2 ^ 64, ∀ t, SizeText.read? (formatSize n) = some t → t.unit ≠ .giga →
        t.number < 1024 := by
  have hread : SizeText.read? (formatSize 1048575) = some ⟨10240, 1, .kilo⟩ := by decide +kernel
  refine ⟨by decide +kernel, fun hbelow => ?_⟩
  have hlt := hbelow 1048575 (by decide) _ hread (by decide)
  norm_num [SizeText.number] at hlt

end OfflineChat
