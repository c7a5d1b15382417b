import Mathlib.Algebra.Order.Field.Basic
import Mathlib.Algebra.Order.Field.Power
import Mathlib.Algebra.Ring.Parity
import Mathlib.Data.Rat.Cast.Order
import Mathlib.Tactic.Linarith
import Mathlib.Tactic.Ring
import OfflineChat.Number.Binary

/-! # Rounding to the nearest

A natural is nearest to a number if the two are at most a half apart, and an even one
is taken where they are a half apart (`IsNearestEven`).  All that is used of rounding
follows from these two facts: a greater number is not rounded to a smaller natural
(`IsNearestEven.mono`), and an even natural is reached from a half below it on
(`IsNearestEven.le_iff_of_even`).

A quotient is rounded where its last bit stands.  `Binary.scaleOf` finds the place
(`Binary.scaleOf_spec`), so a number that a format has is rounded to itself
(`Binary.value?_ofRatio_of_eq`).
-/
namespace OfflineChat

/-! ## Naturals -/

/-- The natural nearest to a number, and the even one of two. -/
structure IsNearestEven (k : ℕ) (x : ℚ) : Prop where
  near : |(k : ℚ) - x| ≤ 1 / 2
  even : |(k : ℚ) - x| = 1 / 2 → Even k

namespace IsNearestEven

variable {a b k : ℕ} {x y : ℚ}

theorem of_lt (h : |(k : ℚ) - x| < 1 / 2) : IsNearestEven k x :=
  ⟨h.le, fun heq => absurd heq h.ne⟩

theorem of_tie (h : |(k : ℚ) - x| = 1 / 2) (hk : Even k) : IsNearestEven k x :=
  ⟨h.le, fun _ => hk⟩

theorem natCast (k : ℕ) : IsNearestEven k k := .of_lt (by simp)

/-- **A greater number is not rounded to a smaller natural.** -/
theorem mono (ha : IsNearestEven a x) (hb : IsNearestEven b y) (h : x ≤ y) : a ≤ b := by
  by_contra hlt
  have hstep : (b : ℚ) + 1 ≤ a := by exact_mod_cast Nat.lt_of_not_le hlt
  obtain ⟨-, hax⟩ := abs_le.mp ha.near
  obtain ⟨hby, -⟩ := abs_le.mp hb.near
  -- then both numbers are the middle between the two naturals, and both naturals are even
  have hxa : (a : ℚ) - x = 1 / 2 := by linarith
  have hyb : (b : ℚ) - y = -(1 / 2) := by linarith
  have heven : Even a := ha.even (by rw [hxa]; norm_num)
  have heven' : Even b := hb.even (by rw [hyb]; norm_num)
  have hsucc : a = b + 1 := by
    have hcast : (a : ℚ) = (b + 1 : ℕ) := by push_cast; linarith
    exact_mod_cast hcast
  rw [hsucc, Nat.even_add_one] at heven
  exact heven heven'

theorem unique (ha : IsNearestEven a x) (hb : IsNearestEven b x) : a = b :=
  Nat.le_antisymm (ha.mono hb le_rfl) (hb.mono ha le_rfl)

theorem le_natCast (ha : IsNearestEven a x) (h : x ≤ k) : a ≤ k := ha.mono (natCast k) h

theorem natCast_le (ha : IsNearestEven a x) (h : k ≤ x) : k ≤ a := (natCast k).mono ha h

/-- **An even natural is reached from a half below it on.** -/
theorem le_iff_of_even (ha : IsNearestEven a x) (hk : Even k) : k ≤ a ↔ (k : ℚ) - 1 / 2 ≤ x := by
  obtain ⟨hlo, hhi⟩ := abs_le.mp ha.near
  constructor
  · intro h
    have hle : (k : ℚ) ≤ a := Nat.cast_le.mpr h
    linarith
  · intro h
    by_contra hlt
    have hstep : (a : ℚ) + 1 ≤ k := by exact_mod_cast Nat.lt_of_not_le hlt
    -- the number is in the middle, with the even natural above it
    have hax : (a : ℚ) - x = -(1 / 2) := by linarith
    have heven : Even a := ha.even (by rw [hax]; norm_num)
    have hsucc : k = a + 1 := by
      have hcast : (k : ℚ) = (a + 1 : ℕ) := by push_cast; linarith
      exact_mod_cast hcast
    rw [hsucc, Nat.even_add_one] at hk
    exact hk heven

end IsNearestEven

/-- **The nearest natural is found.** -/
theorem isNearestEven_divNearestEven (num : ℕ) {den : ℕ} (hden : 0 < den) :
    IsNearestEven (divNearestEven num den) (num / den) := by
  have hpos : (0 : ℚ) < den := Nat.cast_pos.mpr hden
  -- what is left over, as a part of one
  obtain ⟨part, hpart⟩ : ∃ part : ℚ, part = (num % den : ℕ) / den := ⟨_, rfl⟩
  have hleft : ((num % den : ℕ) : ℚ) = part * den := by rw [hpart, div_mul_cancel₀ _ hpos.ne']
  have hx : (num : ℚ) / den = (num / den : ℕ) + part := by
    rw [div_eq_iff hpos.ne', add_mul, ← hleft]
    exact_mod_cast (Nat.div_add_mod' num den).symm
  have hnonneg : 0 ≤ part := hpart ▸ div_nonneg (Nat.cast_nonneg _) (Nat.cast_nonneg _)
  have hone : part < 1 := by
    rw [hpart, div_lt_one hpos]
    exact_mod_cast Nat.mod_lt num hden
  have hbelow : 2 * (num % den) < den ↔ 2 * part < 1 := by
    rw [← Nat.cast_lt (α := ℚ), Nat.cast_mul, hleft, Nat.cast_ofNat, ← mul_assoc,
      mul_lt_iff_lt_one_left hpos]
  have habove : den < 2 * (num % den) ↔ 1 < 2 * part := by
    rw [← Nat.cast_lt (α := ℚ), Nat.cast_mul, hleft, Nat.cast_ofNat, ← mul_assoc,
      lt_mul_iff_one_lt_left hpos]
  rw [hx]
  unfold divNearestEven
  dsimp only
  by_cases hlt : 2 * (num % den) < den
  · rw [if_pos hlt]
    have hsmall := hbelow.mp hlt
    refine .of_lt (abs_lt.mpr ⟨?_, ?_⟩) <;> linarith
  · rw [if_neg hlt]
    by_cases hgt : den < 2 * (num % den)
    · rw [if_pos hgt]
      have hlarge := habove.mp hgt
      refine .of_lt (abs_lt.mpr ⟨?_, ?_⟩) <;> push_cast <;> linarith
    · rw [if_neg hgt]
      have hle := not_lt.mp (habove.not.mp hgt)
      have hge := not_lt.mp (hbelow.not.mp hlt)
      have htie : part = 1 / 2 := by linarith
      rw [htie]
      by_cases heven : num / den % 2 = 0
      · rw [if_pos heven]
        exact .of_tie (by norm_num) (Nat.even_iff.mpr heven)
      · rw [if_neg heven]
        refine .of_tie ?_ (Nat.even_add_one.mpr fun h => heven (Nat.even_iff.mp h))
        rw [Nat.cast_add, Nat.cast_one, add_sub_add_left_eq_sub]
        norm_num

theorem divNearestEven_one (n : ℕ) : divNearestEven n 1 = n := by
  have hnear := isNearestEven_divNearestEven n Nat.one_pos
  rw [Nat.cast_one, div_one] at hnear
  exact hnear.unique (.natCast n)

/-! ## Binary numbers -/

namespace Binary

/-- The rational number that a binary number is; the infinities are none, and neither is `nan`. -/
def value? : Binary → Option ℚ
  | .finite negative m q => some ((if negative then -1 else 1) * (m * 2 ^ q))
  | .infinite _ => none
  | .nan => none

variable {f : BinaryFormat} {negative : Bool} {num den : ℕ} {q : ℤ}

theorem cast_pow_toNat (hq : 0 ≤ q) : ((Nat.pow 2 q.toNat : ℕ) : ℚ) = 2 ^ q := by
  rw [Nat.pow_eq, Nat.cast_pow, Nat.cast_ofNat, ← zpow_natCast, Int.toNat_of_nonneg hq]

theorem cast_pow_toNat_neg (hq : ¬ 0 ≤ q) : ((Nat.pow 2 (-q).toNat : ℕ) : ℚ) = (2 ^ q)⁻¹ := by
  rw [cast_pow_toNat (by omega), zpow_neg]

/-- **The mantissa is the natural nearest to the quotient** at the place of its last bit. -/
theorem isNearestEven_mantissaAt (num : ℕ) (hden : 0 < den) (q : ℤ) :
    IsNearestEven (mantissaAt num den q) (num / den / 2 ^ q) := by
  unfold mantissaAt
  by_cases hq : 0 ≤ q
  · have hnear := isNearestEven_divNearestEven num (Nat.mul_pos hden (Nat.two_pow_pos q.toNat))
    rw [if_pos hq]
    rwa [Nat.cast_mul, ← Nat.pow_eq, cast_pow_toNat hq, ← div_div] at hnear
  · have hnear := isNearestEven_divNearestEven (num * Nat.pow 2 (-q).toNat) hden
    rw [if_neg hq]
    rwa [Nat.cast_mul, cast_pow_toNat_neg hq, ← div_eq_mul_inv, div_right_comm] at hnear

theorem two_zpow_le_iff_of_nonneg {p : ℕ} (hden : 0 < den) (hq : 0 ≤ q) :
    (2 : ℚ) ^ (q + p) ≤ num / den ↔ den * Nat.pow 2 (q.toNat + p) ≤ num := by
  have hpow : Nat.pow 2 (q.toNat + p) = Nat.pow 2 q.toNat * 2 ^ p := Nat.pow_add 2 q.toNat p
  rw [le_div_iff₀ (Nat.cast_pos.mpr hden), ← Nat.cast_le (α := ℚ), hpow, Nat.cast_mul,
    Nat.cast_mul, cast_pow_toNat hq, Nat.cast_pow, Nat.cast_ofNat, zpow_add₀ two_ne_zero,
    zpow_natCast, mul_comm]

theorem two_zpow_le_iff_of_neg {p : ℕ} (hden : 0 < den) (hq : ¬ 0 ≤ q) :
    (2 : ℚ) ^ (q + p) ≤ num / den ↔ den * Nat.pow 2 p ≤ num * Nat.pow 2 (-q).toNat := by
  rw [le_div_iff₀ (Nat.cast_pos.mpr hden), ← Nat.cast_le (α := ℚ), Nat.cast_mul, Nat.cast_mul,
    cast_pow_toNat_neg hq, ← div_eq_mul_inv, le_div_iff₀ (zpow_pos two_pos q), Nat.pow_eq,
    Nat.cast_pow, Nat.cast_ofNat, zpow_add₀ two_ne_zero, zpow_natCast, mul_comm _ (den : ℚ),
    mul_comm ((2 : ℚ) ^ q), ← mul_assoc]

/-- The place of the last bit is known from the bits of the two naturals but for one, and that is
found by a comparison. -/
theorem scaleOf_cases (p num : ℕ) (hden : 0 < den) :
    ∃ q : ℤ, q + p = num.log2 - den.log2 ∧
      (scaleOf p num den = q + 1 ∧ (2 : ℚ) ^ (q + p) ≤ num / den ∨
        scaleOf p num den = q ∧ (num : ℚ) / den < 2 ^ (q + p)) := by
  refine ⟨num.log2 - den.log2 - p, by omega, ?_⟩
  unfold scaleOf
  dsimp only
  generalize (num.log2 : ℤ) - den.log2 - p = q
  by_cases hq : 0 ≤ q
  · have hiff : (2 : ℚ) ^ (q + p) ≤ num / den ↔ _ := two_zpow_le_iff_of_nonneg hden hq
    by_cases hle : den * Nat.pow 2 (q.toNat + p) ≤ num
    · exact .inl ⟨by rw [if_pos hq, if_pos hle], hiff.mpr hle⟩
    · exact .inr ⟨by rw [if_pos hq, if_neg hle], not_le.mp (hiff.not.mpr hle)⟩
  · have hiff : (2 : ℚ) ^ (q + p) ≤ num / den ↔ _ := two_zpow_le_iff_of_neg hden hq
    by_cases hle : den * Nat.pow 2 p ≤ num * Nat.pow 2 (-q).toNat
    · exact .inl ⟨by rw [if_neg hq, if_pos hle], hiff.mpr hle⟩
    · exact .inr ⟨by rw [if_neg hq, if_neg hle], not_le.mp (hiff.not.mpr hle)⟩

/-- A quotient lies between powers of two that differ by two places. -/
theorem log2_bounds (hnum : 0 < num) (hden : 0 < den) :
    (2 : ℚ) ^ ((num.log2 : ℤ) - den.log2 - 1) ≤ num / den ∧
      (num : ℚ) / den < 2 ^ ((num.log2 : ℤ) - den.log2 + 1) := by
  have hpos : (0 : ℚ) < den := Nat.cast_pos.mpr hden
  have hnumlo : (2 : ℚ) ^ (num.log2 : ℤ) ≤ num := by exact_mod_cast Nat.log2_self_le hnum.ne'
  have hnumhi : (num : ℚ) < 2 ^ (num.log2 + 1 : ℤ) := by exact_mod_cast Nat.lt_log2_self
  have hdenlo : (2 : ℚ) ^ (den.log2 : ℤ) ≤ den := by exact_mod_cast Nat.log2_self_le hden.ne'
  have hdenhi : (den : ℚ) < 2 ^ (den.log2 + 1 : ℤ) := by exact_mod_cast Nat.lt_log2_self
  constructor
  · rw [le_div_iff₀ hpos]
    calc (2 : ℚ) ^ ((num.log2 : ℤ) - den.log2 - 1) * den
        ≤ 2 ^ ((num.log2 : ℤ) - den.log2 - 1) * 2 ^ (den.log2 + 1 : ℤ) :=
          mul_le_mul_of_nonneg_left hdenhi.le (zpow_pos two_pos _).le
      _ = 2 ^ (num.log2 : ℤ) := by rw [← zpow_add₀ two_ne_zero]; congr 1; omega
      _ ≤ num := hnumlo
  · rw [div_lt_iff₀ hpos]
    calc (num : ℚ) < 2 ^ (num.log2 + 1 : ℤ) := hnumhi
      _ = 2 ^ ((num.log2 : ℤ) - den.log2 + 1) * 2 ^ (den.log2 : ℤ) := by
          rw [← zpow_add₀ two_ne_zero]; congr 1; omega
      _ ≤ 2 ^ ((num.log2 : ℤ) - den.log2 + 1) * den :=
          mul_le_mul_of_nonneg_left hdenlo (zpow_pos two_pos _).le

/-- **The place of the last bit** leaves a quotient the bits of a mantissa, and no more. -/
theorem scaleOf_spec (p : ℕ) (hnum : 0 < num) (hden : 0 < den) :
    (2 : ℚ) ^ (scaleOf p num den + p - 1) ≤ num / den ∧
      (num : ℚ) / den < 2 ^ (scaleOf p num den + p) := by
  obtain ⟨hlo, hhi⟩ := log2_bounds hnum hden
  obtain ⟨q, hq, ⟨hscale, hle⟩ | ⟨hscale, hlt⟩⟩ := scaleOf_cases p num hden
  · rw [hscale, add_right_comm, add_sub_cancel_right, hq]
    exact ⟨hq ▸ hle, hhi⟩
  · rw [hscale, hq]
    exact ⟨hlo, hq ▸ hlt⟩

/-- The last bit of a natural is as far from its first as a mantissa is long. -/
theorem scaleOf_one (p : ℕ) (hnum : num ≠ 0) : scaleOf p num 1 = num.log2 + 1 - p := by
  have hone : Nat.log2 1 = 0 := by decide
  obtain ⟨q, hq, ⟨hscale, -⟩ | ⟨-, hlt⟩⟩ := scaleOf_cases p num Nat.one_pos
  · rw [hone] at hq
    omega
  · -- a natural is no less than the power of two of its first bit
    have hself : (2 : ℚ) ^ num.log2 ≤ num := by exact_mod_cast Nat.log2_self_le hnum
    rw [hq, hone, Nat.cast_zero, sub_zero, zpow_natCast, Nat.cast_one, div_one] at hlt
    exact absurd hlt (not_lt.mpr hself)

/-- **A quotient is rounded to its mantissa** at the place of its last bit, or of the last bit that
the format has. -/
theorem value?_ofRatio (hnum : num ≠ 0) (hbits : 0 < f.precision)
    (hq : q = max (scaleOf f.precision num den) f.least) (hfits : q < f.greatest) :
    (ofRatio f negative num den).value? =
      some ((if negative then -1 else 1) * (mantissaAt num den q * 2 ^ q : ℚ)) := by
  unfold ofRatio
  rw [if_neg hnum]
  dsimp only
  rw [← hq]
  by_cases hcarry : mantissaAt num den q = Nat.pow 2 f.precision
  · -- one bit too many is one place more
    obtain ⟨p, hp⟩ : ∃ p, f.precision = p + 1 := ⟨f.precision - 1, by omega⟩
    have hpow : ((Nat.pow 2 p : ℕ) : ℚ) * 2 ^ (q + 1) = (Nat.pow 2 (p + 1) : ℕ) * 2 ^ q := by
      rw [Nat.pow_eq, Nat.pow_eq, pow_succ, zpow_add_one₀ two_ne_zero]
      push_cast
      ring
    rw [if_pos hcarry]
    dsimp only
    rw [if_neg (by omega), value?, hcarry, hp, Nat.add_sub_cancel, hpow]
  · rw [if_neg hcarry]
    dsimp only
    rw [if_neg (by omega), value?]

/-- **A number that the format has is rounded to itself.** -/
theorem value?_ofRatio_of_eq {m : ℕ} {e : ℤ} (hden : 0 < den) (hbits : 0 < f.precision)
    (hm : m < 2 ^ f.precision) (hlo : f.least ≤ e) (hhi : e < f.greatest)
    (hx : (num : ℚ) / den = m * 2 ^ e) :
    (ofRatio f negative num den).value? =
      some ((if negative then -1 else 1) * (num / den : ℚ)) := by
  rcases Nat.eq_zero_or_pos num with rfl | hnum
  · rw [ofRatio, if_pos rfl, value?, Nat.cast_zero, zero_mul, zero_div]
  · obtain ⟨q, hq⟩ : ∃ q, q = max (scaleOf f.precision num den) f.least := ⟨_, rfl⟩
    -- the number has the bits of its mantissa, so its last bit is not behind that of the mantissa
    have hplace : q ≤ e := by
      have hbelow : (2 : ℚ) ^ (scaleOf f.precision num den + f.precision - 1) <
          2 ^ (f.precision + e) := by
        calc (2 : ℚ) ^ (scaleOf f.precision num den + f.precision - 1)
            ≤ m * 2 ^ e := hx ▸ (scaleOf_spec f.precision hnum hden).1
          _ < 2 ^ f.precision * 2 ^ e :=
              mul_lt_mul_of_pos_right (by exact_mod_cast hm) (zpow_pos two_pos e)
          _ = 2 ^ (f.precision + e) := by rw [zpow_add₀ two_ne_zero, zpow_natCast]
      have hlt := (zpow_lt_zpow_iff_right₀ one_lt_two).mp hbelow
      omega
    have hwhole : (num : ℚ) / den / 2 ^ q = (m * Nat.pow 2 (e - q).toNat : ℕ) := by
      rw [hx, Nat.cast_mul, cast_pow_toNat (by omega), zpow_sub₀ two_ne_zero, mul_div_assoc]
    have hmantissa : (mantissaAt num den q : ℚ) = num / den / 2 ^ q := by
      have hnear := isNearestEven_mantissaAt num hden q
      rw [hwhole] at hnear ⊢
      rw [hnear.unique (.natCast _)]
    rw [value?_ofRatio hnum.ne' hbits hq (by omega), hmantissa,
      div_mul_cancel₀ _ (zpow_pos two_pos q).ne']

end Binary
end OfflineChat
