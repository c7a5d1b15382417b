import Mathlib.Data.List.Forall2
import OfflineChat.Text.Case

/-! # Texts without regard to the case of Latin letters

Two characters have one lower case if they are the same, or the two cases of one
Latin letter (`Text.asciiLowerChar_eq_asciiLowerChar`), and one text stands in
another in lower case if a stretch of the other has its characters in that sense
(`Text.contains_asciiLower_iff`).  Everything but Latin letters stands for itself
alone (`Text.sameLetter_iff_of_not_isAlpha`).
-/
namespace OfflineChat
namespace Text

/-! ## Characters -/

/-- One character is the Latin capital of another. -/
def IsCapitalOf (c d : Char) : Prop := 65 ≤ c.toNat ∧ c.toNat ≤ 90 ∧ d.toNat = c.toNat + 32

/-- Two characters are the same but for the case of a Latin letter. -/
def SameLetter (c d : Char) : Prop := c = d ∨ IsCapitalOf c d ∨ IsCapitalOf d c

theorem toNat_asciiLowerChar {c : Char} (hlow : 65 ≤ c.toNat) (hhigh : c.toNat ≤ 90) :
    (asciiLowerChar c).toNat = c.toNat + 32 := by
  have hall : ∀ n < 26, (asciiLowerChar (Char.ofNat (65 + n))).toNat = 97 + n := by decide
  have hc := hall (c.toNat - 65) (by omega)
  rw [show 65 + (c.toNat - 65) = c.toNat by omega, Char.ofNat_toNat] at hc
  omega

theorem asciiLowerChar_of_not {c : Char} (h : ¬ (65 ≤ c.toNat ∧ c.toNat ≤ 90)) :
    asciiLowerChar c = c := if_neg h

/-- **Characters have one lower case if they are the same but for the case of a letter.** -/
theorem asciiLowerChar_eq_asciiLowerChar {c d : Char} :
    asciiLowerChar c = asciiLowerChar d ↔ SameLetter c d := by
  rw [SameLetter, IsCapitalOf, IsCapitalOf, ← Char.toNat_inj, ← Char.toNat_inj (c := c)]
  by_cases hc : 65 ≤ c.toNat ∧ c.toNat ≤ 90
  · by_cases hd : 65 ≤ d.toNat ∧ d.toNat ≤ 90
    · rw [toNat_asciiLowerChar hc.1 hc.2, toNat_asciiLowerChar hd.1 hd.2]
      omega
    · rw [toNat_asciiLowerChar hc.1 hc.2, asciiLowerChar_of_not hd]
      omega
  · by_cases hd : 65 ≤ d.toNat ∧ d.toNat ≤ 90
    · rw [asciiLowerChar_of_not hc, toNat_asciiLowerChar hd.1 hd.2]
      omega
    · rw [asciiLowerChar_of_not hc, asciiLowerChar_of_not hd]
      omega

/-- A character before the letters is the lower case of itself alone. -/
theorem asciiLowerChar_eq_iff {c d : Char} (hd : d.toNat < 65) :
    asciiLowerChar c = d ↔ c = d := by
  have hlower := asciiLowerChar_eq_asciiLowerChar (c := c) (d := d)
  rw [asciiLowerChar_of_not (c := d) (by omega), SameLetter, IsCapitalOf, IsCapitalOf] at hlower
  rw [hlower]
  refine ⟨fun h => ?_, .inl⟩
  rcases h with h | h | h
  · exact h
  · omega
  · omega

theorem asciiLowerChar_eq_e {c : Char} : asciiLowerChar c = 'e' ↔ c = 'e' ∨ c = 'E' := by
  have hlower : asciiLowerChar c = 'e' ↔ SameLetter c 'e' :=
    asciiLowerChar_eq_asciiLowerChar (d := 'e')
  rw [hlower, SameLetter, IsCapitalOf, IsCapitalOf, ← Char.toNat_inj, ← Char.toNat_inj (c := c)]
  have he : 'e'.toNat = 101 := rfl
  have hE : 'E'.toNat = 69 := rfl
  omega

/-- **What is no Latin letter is the same as itself alone**, and so is every character that is not
ASCII. -/
theorem sameLetter_iff_of_not_isAlpha {c d : Char} (h : d.isAlpha = false) :
    SameLetter c d ↔ c = d := by
  have hletter : ¬ (65 ≤ d.toNat ∧ d.toNat ≤ 90) ∧ ¬ (97 ≤ d.toNat ∧ d.toNat ≤ 122) := by
    have hcases : (decide ('A'.val ≤ d.val ∧ d.val ≤ 'Z'.val) ||
        (decide ('a'.val ≤ d.val) && decide (d.val ≤ 'z'.val))) = false := h
    simp only [Bool.or_eq_false_iff, Bool.and_eq_false_iff, decide_eq_false_iff_not,
      UInt32.le_iff_toNat_le] at hcases
    show ¬ (65 ≤ d.val.toNat ∧ d.val.toNat ≤ 90) ∧ ¬ (97 ≤ d.val.toNat ∧ d.val.toNat ≤ 122)
    have hA : 'A'.val.toNat = 65 := rfl
    have hZ : 'Z'.val.toNat = 90 := rfl
    have ha : 'a'.val.toNat = 97 := rfl
    have hz : 'z'.val.toNat = 122 := rfl
    omega
  refine ⟨fun hsame => ?_, .inl⟩
  rcases hsame with rfl | ⟨hlow, hhigh, hd⟩ | ⟨hlow, hhigh, -⟩
  · rfl
  · omega
  · omega

/-! ## Texts -/

theorem hasInfix_iff {α : Type} [DecidableEq α] {part l : List α} :
    hasInfix part l = true ↔ part <:+: l := by
  induction l with
  | nil => rw [hasInfix, List.isEmpty_iff, List.infix_nil]
  | cons a rest ih =>
    rw [hasInfix, Bool.or_eq_true, List.isPrefixOf_iff_prefix, ih, List.infix_cons_iff]

theorem contains_iff {s part : String} : contains s part = true ↔ part.toList <:+: s.toList :=
  hasInfix_iff

/-- One text stands in another: a stretch of the other has its characters, but for the case of
Latin letters. -/
def StandsIn (part s : String) : Prop :=
  ∃ before stretch after, s.toList = before ++ stretch ++ after ∧
    List.Forall₂ SameLetter stretch part.toList

/-- **A text in lower case holds another if the other stands in it.** -/
theorem contains_asciiLower_iff {s part : String} :
    contains (asciiLower s) (asciiLower part) = true ↔ StandsIn part s := by
  have hsame (l : List Char) : l.map asciiLowerChar = part.toList.map asciiLowerChar ↔
      List.Forall₂ SameLetter l part.toList := by
    rw [← List.forall₂_eq_eq_eq, List.forall₂_map_left_iff, List.forall₂_map_right_iff]
    simp only [asciiLowerChar_eq_asciiLowerChar]
  rw [contains_iff, asciiLower, asciiLower, String.toList_ofList, String.toList_ofList]
  constructor
  · rintro ⟨before, after, h⟩
    obtain ⟨front, rear, hs, hfront, -⟩ := List.map_eq_append_iff.mp h.symm
    obtain ⟨first, stretch, rfl, -, hstretch⟩ := List.map_eq_append_iff.mp hfront
    exact ⟨first, stretch, rear, hs, (hsame stretch).mp hstretch⟩
  · rintro ⟨before, stretch, after, hs, hstretch⟩
    refine ⟨before.map asciiLowerChar, after.map asciiLowerChar, ?_⟩
    rw [← (hsame stretch).mpr hstretch, hs, List.map_append, List.map_append]

end Text
end OfflineChat
