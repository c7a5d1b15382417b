import Mathlib.Algebra.Order.Field.Power
import Mathlib.Data.Rat.Cast.Order
import OfflineChat.Client.Basic
import OfflineChat.Proofs.BinaryRounding
import OfflineChat.Proofs.BlankEnds
import OfflineChat.Proofs.KeptValues

/-! # Settings stay within their bounds

A text changes the setting of a key and nothing else, or it is refused and changes
nothing (`AppSettings.set_cases`).  What it changes is within the bounds of its
setting, so settings that are within bounds stay there, whatever is typed
(`AppSettings.InBounds.foldl_attempt`).

The range of a temperature is checked without fractions; the check is exact, and there
is nothing it accepts but numbers (`Binary.isBetweenZeroAnd_iff`).  The main statement is
`AppSettings.bounds_kept`.
-/
namespace OfflineChat

namespace Binary

theorem ratio_spec (m : Nat) (q : Int) :
    0 < (ratio m q).2 ∧ ((ratio m q).1 : ℚ) = m * 2 ^ q * (ratio m q).2 := by
  by_cases hq : 0 ≤ q
  · rw [ratio, if_pos hq, Nat.cast_mul, cast_pow_toNat hq, Nat.cast_one, mul_one]
    exact ⟨Nat.one_pos, rfl⟩
  · rw [ratio, if_neg hq, cast_pow_toNat_neg hq,
      mul_inv_cancel_right₀ (zpow_pos two_pos q).ne']
    exact ⟨Nat.two_pow_pos _, rfl⟩

theorem ratio_le_iff (m n : Nat) (q : Int) :
    (ratio m q).1 ≤ n * (ratio m q).2 ↔ (m * 2 ^ q : ℚ) ≤ n := by
  obtain ⟨hpos, hvalue⟩ := ratio_spec m q
  rw [← Nat.cast_le (α := ℚ), hvalue, Nat.cast_mul]
  exact mul_le_mul_iff_left₀ (Nat.cast_pos.mpr hpos)

/-- **The check of a range is exact**: it accepts the numbers in the range and nothing else. -/
theorem isBetweenZeroAnd_iff {n : Nat} {x : Binary} :
    x.isBetweenZeroAnd n = true ↔ ∃ v, x.value? = some v ∧ 0 ≤ v ∧ v ≤ n := by
  cases x with
  | infinite negative => simp [isBetweenZeroAnd, value?]
  | nan => simp [isBetweenZeroAnd, value?]
  | finite negative m q =>
    have hpow : (0 : ℚ) < 2 ^ q := zpow_pos two_pos q
    have hle := ratio_le_iff m n q
    simp only [isBetweenZeroAnd, value?, Bool.and_eq_true, Bool.or_eq_true, beq_iff_eq,
      decide_eq_true_eq, hle, Option.some.injEq, exists_eq_left']
    cases negative with
    | false =>
      have hnonneg : (0 : ℚ) ≤ m * 2 ^ q := mul_nonneg (Nat.cast_nonneg m) hpow.le
      simp [hnonneg]
    | true =>
      -- with a sign before it only zero is not below zero
      rcases Nat.eq_zero_or_pos m with rfl | hm
      · simp
      · have hpos : (0 : ℚ) < m * 2 ^ q := mul_pos (Nat.cast_pos.mpr hm) hpow
        refine iff_of_false (fun h => ?_) (fun h => ?_)
        · simp [hm.ne'] at h
        · have hsign : (0 : ℚ) ≤ -1 * (m * 2 ^ q) := h.1
          linarith

end Binary

namespace AppSettings

open Text (EndsWithout isBlank trim)

variable {s s' : AppSettings} {key text : String}

/-- What stays true of settings: the limit is a natural of 32 bits that is not zero, the temperature
is a number between 0 and 2, and a model that is named has a name without blanks at its ends. -/
structure InBounds (s : AppSettings) : Prop where
  maxTokens : 1 ≤ s.maxTokens ∧ s.maxTokens ≤ 2 ^ 32 - 1
  temperature : ∃ v, s.temperature.value? = some v ∧ 0 ≤ v ∧ v ≤ 2
  defaultModel : ∀ m ∈ s.defaultModel, m ≠ "" ∧ EndsWithout isBlank m.toList

theorem inBounds_initial : initial.InBounds := by
  refine ⟨by decide, ?_, nofun⟩
  exact Binary.isBetweenZeroAnd_iff.mp (by decide +kernel)

/-- **What a text changes is within bounds.** -/
theorem Changes.inBounds (h : s.Changes key text s') (hs : s.InBounds) : s'.InBounds := by
  cases h with
  | defaultModel =>
    refine ⟨hs.maxTokens, hs.temperature, fun m hm => ?_⟩
    have hname : (if trim text = "" then none else some (trim text)) = some m := hm
    split at hname
    · cases hname
    · cases hname
      exact ⟨‹_›, Text.endsWithout_trim text⟩
  | maxTokens hn hpos =>
    have hlimit := (Option.filter_eq_some_iff.mp hn).2
    exact ⟨⟨hpos, of_decide_eq_true hlimit⟩, hs.temperature, hs.defaultModel⟩
  | temperature hx hrange =>
    exact ⟨hs.maxTokens, Binary.isBetweenZeroAnd_iff.mp hrange, hs.defaultModel⟩
  | showTimestamps => exact ⟨hs.maxTokens, hs.temperature, hs.defaultModel⟩
  | telemetry => exact ⟨hs.maxTokens, hs.temperature, hs.defaultModel⟩

/-- The settings after a key and a text for it, taken or refused. -/
def attempt (s : AppSettings) (change : String × String) : AppSettings :=
  (s.set change.1 change.2).2

theorem InBounds.attempt (hs : s.InBounds) (change : String × String) :
    (s.attempt change).InBounds := by
  unfold AppSettings.attempt
  obtain ⟨s', hset, hchanges⟩ | ⟨message, hset⟩ := set_cases s change.1 change.2
  · rw [hset]
    exact hchanges.inBounds hs
  · rw [hset]
    exact hs

/-- **Settings stay within bounds**, whatever is typed. -/
theorem InBounds.foldl_attempt (hs : s.InBounds) (changes : List (String × String)) :
    (changes.foldl AppSettings.attempt s).InBounds := by
  induction changes generalizing s with
  | nil => exact hs
  | cons change changes ih => exact ih (hs.attempt change)

/-- **Settings within bounds stay there.**  A text for a key changes the setting of that key and
nothing else, exactly if it says something the setting can be; else it is refused with a complaint
about the configuration and changes nothing.  The settings of a user who has changed none are
within bounds, and so are settings after any number of texts, taken or refused; so no model is
asked for a temperature or a limit that is not. -/
theorem bounds_kept :
    (∀ (s : AppSettings) (key text : String),
      (∀ s', s.set key text = (.ok (), s') ↔ s.Changes key text s') ∧
      ((∃ s', s.set key text = (.ok (), s') ∧ s.Changes key text s') ∨
        ∃ message, s.set key text = (.error (.config message), s))) ∧
    initial.InBounds ∧
    ∀ s : AppSettings, s.InBounds → ∀ changes : List (String × String),
      let after := changes.foldl attempt s
      after.InBounds ∧ ∀ config,
        let asked := CompletionSettings.ofSettings config after
        (∃ n, asked.maxTokens = some n ∧ 1 ≤ n ∧ n ≤ 2 ^ 32 - 1) ∧
          ∃ x v, asked.temperature = some x ∧ x.value? = some v ∧ 0 ≤ v ∧ v ≤ 2 := by
  refine ⟨fun s key text => ⟨fun _ => set_eq_ok_iff, set_cases s key text⟩, inBounds_initial,
    fun s hs changes => ?_⟩
  have hafter := hs.foldl_attempt changes
  obtain ⟨v, hv, hrange⟩ := hafter.temperature
  exact ⟨hafter, fun config => ⟨⟨_, rfl, hafter.maxTokens⟩, _, v, rfl, hv, hrange⟩⟩

/-- Settings that are changed, refused at the edges of their ranges, and changed again. -/
theorem bounds_kept_typed :
    let changes := [("temperature", "2e0"), ("temperature", "NaN"), ("temperature", "-1e-9"),
      ("max_tokens", "+4294967295"), ("max_tokens", "4294967296"), ("max_tokens", "0"),
      ("default_model", "\u3000llama 3\t"), ("theme", "dark")]
    let after := changes.foldl attempt initial
    after = { initial with
      defaultModel := some "llama 3", maxTokens := 4294967295,
      temperature := .finite false 0x800000 (-22) } ∧
    after.InBounds := by
  obtain ⟨-, hinitial, hrun⟩ := bounds_kept
  exact ⟨by decide +kernel, (hrun initial hinitial _).1⟩

end AppSettings
end OfflineChat
