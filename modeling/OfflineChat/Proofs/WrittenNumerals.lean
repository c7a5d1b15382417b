import Mathlib.Data.List.TakeWhile
import OfflineChat.Json.Document

/-! # Written integers are read back

No digit, point or exponent can follow a written value, so a literal is cut off
where it was written (`Numeral.scan_append`).  An integer is written as its decimal
digits behind a sign (`Numeral.scan_intChars`), and the literal stands for the
integer again as long as that fits sixty-four bits (`Numeral.value?_ofInt`).
-/
namespace OfflineChat

/-- What can follow a written value: nothing, a comma, a closing bracket or a blank. -/
def Document.EndsValue (rest : List Char) : Prop :=
  ∀ c ∈ rest.head?, c = ',' ∨ c = ']' ∨ c = '}' ∨ Document.isGap c = true

namespace Numeral

open Document (EndsValue)

variable {c : Char} {cs ds rest : List Char} {n : Nat}

/-! ## Digits -/

/-- There is a first digit, and it is one. -/
theorem toDigits_cons (n : Nat) :
    ∃ c cs, Nat.toDigits 10 n = c :: cs ∧ c.isDigit = true := by
  obtain ⟨c, cs, hcs⟩ := List.exists_cons_of_ne_nil (Nat.toDigits_ne_nil (n := n) (b := 10))
  have hmem : c ∈ Nat.toDigits 10 n := by
    rw [hcs]
    exact List.mem_cons_self ..
  exact ⟨c, cs, hcs, Nat.isDigit_of_mem_toDigits (by decide) (by decide) hmem⟩

/-- A number that is not zero is written without a zero in front. -/
theorem toDigits_ne_zero_cons (h : 0 < n) : Nat.toDigits 10 n ≠ '0' :: cs := by
  induction n using Nat.strongRecOn generalizing cs with
  | ind n ih =>
    by_cases hn : n < 10
    · rw [Nat.toDigits_of_lt_base hn]
      have hdigit : ∀ d < 10, 0 < d → d.digitChar ≠ '0' := by decide
      intro heq
      exact hdigit n hn h (List.cons.inj heq).1
    · -- the first digit is that of the number without its last one
      obtain ⟨c, front, hfront, -⟩ := toDigits_cons (n / 10)
      rw [Nat.toDigits_of_base_le (by omega) (by omega), hfront]
      intro heq
      obtain rfl : c = '0' := (List.cons.inj heq).1
      exact ih (n / 10) (by omega) (by omega) hfront

/-- As long as their number fits, all digits are taken into the significand. -/
theorem accumulate_eq_ofDigitChars (ds : List Char) (n : Nat)
    (h : Nat.ofDigitChars 10 ds n ≤ 0xFFFFFFFFFFFFFFFF) :
    accumulate n ds = (Nat.ofDigitChars 10 ds n, []) := by
  induction ds generalizing n with
  | nil => rfl
  | cons c ds ih =>
    rw [Nat.ofDigitChars_cons] at h ⊢
    -- each digit makes the number greater, so what fits in the end fits before
    have hstep : 10 * n + digit c ≤ 0xFFFFFFFFFFFFFFFF := by
      have hpow : 1 ≤ 10 ^ ds.length := Nat.one_le_pow _ _ (by decide)
      have hmul : 1 * (10 * n + digit c) ≤ 10 ^ ds.length * (10 * n + digit c) :=
        Nat.mul_le_mul_right _ hpow
      rw [Nat.ofDigitChars_eq_ofDigitChars_zero] at h
      have hsum : 10 ^ ds.length * (10 * n + digit c) + Nat.ofDigitChars 10 ds 0 ≤
          0xFFFFFFFFFFFFFFFF := h
      omega
    rw [accumulate]
    exact (if_pos hstep).trans (ih _ h)

theorem accumulate_toDigits (h : n ≤ 0xFFFFFFFFFFFFFFFF) :
    accumulate 0 (Nat.toDigits 10 n) = (n, []) := by
  have hvalue : Nat.ofDigitChars 10 (Nat.toDigits 10 n) 0 = n := Nat.ofDigitChars_ten_toDigits
  rw [accumulate_eq_ofDigitChars _ _ (by rw [hvalue]; exact h), hvalue]

/-! ## Cutting a literal off -/

theorem head?_of_endsValue (h : EndsValue rest) :
    (rest.head?.map Char.isDigit).getD false = false ∧
      rest.head? ≠ some '.' ∧ rest.head? ≠ some 'e' ∧ rest.head? ≠ some 'E' := by
  cases rest with
  | nil => simp
  | cons c rest =>
    rcases h c rfl with rfl | rfl | rfl | hgap
    · simp
    · simp
    · simp
    · rcases (by simpa [Document.isGap] using hgap : ((c = ' ' ∨ c = '\n') ∨ c = '\t') ∨ c = '\r')
        with ((rfl | rfl) | rfl) | rfl <;> simp

/-- A run of digits ends where the value ends at the latest. -/
theorem digits_append (cs : List Char) (hrest : EndsValue rest) :
    (cs ++ rest).takeWhile Char.isDigit = cs.takeWhile Char.isDigit ∧
      (cs ++ rest).dropWhile Char.isDigit = cs.dropWhile Char.isDigit ++ rest := by
  induction cs with
  | nil =>
    cases rest with
    | nil => exact ⟨rfl, rfl⟩
    | cons c rest =>
      have hc : ¬ c.isDigit = true := by simpa using (head?_of_endsValue hrest).1
      exact ⟨List.takeWhile_cons_of_neg hc, List.dropWhile_cons_of_neg hc⟩
  | cons c cs ih =>
    rw [List.cons_append, List.takeWhile_cons, List.takeWhile_cons, List.dropWhile_cons,
      List.dropWhile_cons, ih.1, ih.2]
    split <;> exact ⟨rfl, rfl⟩

variable {r : List Char}

theorem scanWhole_append (h : scanWhole cs = some (ds, r)) (hrest : EndsValue rest) :
    scanWhole (cs ++ rest) = some (ds, r ++ rest) := by
  obtain ⟨htake, hdrop⟩ := digits_append cs hrest
  unfold scanWhole at h
  split at h
  · rename_i cs
    split at h
    · cases h
    · rename_i hlone
      cases h
      rw [List.cons_append, scanWhole, if_neg]
      cases r with
      | nil => simpa using (head?_of_endsValue hrest).1
      | cons c r => exact hlone
  · rename_i hzero
    dsimp only at h
    split at h
    · cases h
    · rename_i hsome
      cases h
      have hne : ∀ cs', cs ++ rest ≠ '0' :: cs' := by
        intro cs' heq
        cases cs with
        | nil => exact hsome rfl
        | cons c cs => exact hzero cs (by rw [(List.cons.inj heq).1])
      unfold scanWhole
      split
      · exact absurd ‹_› (hne _)
      · dsimp only
        rw [htake, hdrop, if_neg hsome]

theorem scanFraction_append (h : scanFraction cs = some (ds, r)) (hrest : EndsValue rest) :
    scanFraction (cs ++ rest) = some (ds, r ++ rest) := by
  unfold scanFraction at h
  split at h
  · rename_i cs
    obtain ⟨htake, hdrop⟩ := digits_append cs hrest
    dsimp only at h
    split at h
    · cases h
    · rename_i hsome
      cases h
      rw [List.cons_append, scanFraction, htake, hdrop]
      exact if_neg hsome
  · rename_i hpoint
    cases h
    unfold scanFraction
    split
    · rename_i heq
      cases cs with
      | nil => exact absurd (congrArg List.head? heq) (head?_of_endsValue hrest).2.1
      | cons c cs => exact absurd (by rw [(List.cons.inj heq).1]) (hpoint cs)
    · rfl

theorem scanExponentDigits_append {negative : Bool} {e : Option (Bool × List Char)}
    (h : scanExponentDigits negative cs = some (e, r)) (hrest : EndsValue rest) :
    scanExponentDigits negative (cs ++ rest) = some (e, r ++ rest) := by
  obtain ⟨htake, hdrop⟩ := digits_append cs hrest
  unfold scanExponentDigits at h ⊢
  dsimp only at h ⊢
  rw [htake, hdrop]
  split at h
  · cases h
  · rename_i hsome
    cases h
    exact if_neg hsome

/-- The digits of an exponent stand behind its sign, if it has one. -/
theorem scanExponent_cons {c : Char} (he : c = 'e' ∨ c = 'E') (cs : List Char) :
    (∃ body, cs = '+' :: body ∧ ∀ rest, scanExponent (c :: (cs ++ rest)) =
        scanExponentDigits false (body ++ rest)) ∨
      (∃ body, cs = '-' :: body ∧ ∀ rest, scanExponent (c :: (cs ++ rest)) =
        scanExponentDigits true (body ++ rest)) ∨
      cs = [] ∨ ∀ rest, scanExponent (c :: (cs ++ rest)) = scanExponentDigits false (cs ++ rest) := by
  have hstart (cs : List Char) : scanExponent (c :: cs) = _ := if_pos he
  cases cs with
  | nil => exact .inr (.inr (.inl rfl))
  | cons c' cs =>
    by_cases hplus : c' = '+'
    · subst hplus
      exact .inl ⟨cs, rfl, fun rest => hstart _⟩
    · by_cases hminus : c' = '-'
      · subst hminus
        exact .inr (.inl ⟨cs, rfl, fun rest => hstart _⟩)
      · refine .inr (.inr (.inr fun rest => (hstart _).trans ?_))
        split
        · exact absurd (List.cons.inj ‹_›).1 hplus
        · exact absurd (List.cons.inj ‹_›).1 hminus
        · rfl

theorem scanExponent_append {e : Option (Bool × List Char)} (h : scanExponent cs = some (e, r))
    (hrest : EndsValue rest) : scanExponent (cs ++ rest) = some (e, r ++ rest) := by
  obtain ⟨-, -, hsmall, hlarge⟩ := head?_of_endsValue hrest
  cases cs with
  | nil =>
    cases h
    cases rest with
    | nil => rfl
    | cons c rest =>
      refine if_neg ?_
      rintro (rfl | rfl)
      · exact hsmall rfl
      · exact hlarge rfl
  | cons c cs =>
    by_cases he : c = 'e' ∨ c = 'E'
    · have hnil := List.append_nil cs
      obtain ⟨body, rfl, hscan⟩ | ⟨body, rfl, hscan⟩ | rfl | hscan := scanExponent_cons he cs
      · rw [List.cons_append, hscan]
        exact scanExponentDigits_append (by rw [← h, ← hnil, hscan, List.append_nil]) hrest
      · rw [List.cons_append, hscan]
        exact scanExponentDigits_append (by rw [← h, ← hnil, hscan, List.append_nil]) hrest
      · have hnone : scanExponent [c] = none := if_pos he
        rw [hnone] at h
        cases h
      · rw [List.cons_append, hscan]
        exact scanExponentDigits_append (by rw [← h, ← hnil, hscan, List.append_nil]) hrest
    · have hother (cs : List Char) : scanExponent (c :: cs) = some (none, c :: cs) := if_neg he
      rw [hother] at h
      cases h
      exact hother _

/-- Read a literal behind its sign. -/
def scanParts (negative : Bool) (cs : List Char) : Option (Numeral × List Char) :=
  (scanWhole cs).bind fun w => (scanFraction w.2).bind fun f =>
    (scanExponent f.2).bind fun e => some (⟨negative, w.1, f.1, e.1⟩, e.2)

theorem scan_minus (cs : List Char) : scan ('-' :: cs) = scanParts true cs := rfl

theorem scan_of_ne (h : ∀ body, cs ≠ '-' :: body) : scan cs = scanParts false cs := by
  unfold scan
  split
  rename_i heq
  split at heq
  · exact absurd rfl (h _)
  · cases heq
    rfl

theorem scanParts_append {negative : Bool} {m : Numeral}
    (h : scanParts negative cs = some (m, r)) (hrest : EndsValue rest) :
    scanParts negative (cs ++ rest) = some (m, r ++ rest) := by
  obtain ⟨⟨ws, r₁⟩, hwhole, h⟩ := Option.bind_eq_some_iff.mp h
  obtain ⟨⟨fs, r₂⟩, hfraction, h⟩ := Option.bind_eq_some_iff.mp h
  obtain ⟨⟨e, r₃⟩, hexponent, h⟩ := Option.bind_eq_some_iff.mp h
  cases h
  refine Option.bind_eq_some_iff.mpr ⟨_, scanWhole_append hwhole hrest, ?_⟩
  refine Option.bind_eq_some_iff.mpr ⟨_, scanFraction_append hfraction hrest, ?_⟩
  exact Option.bind_eq_some_iff.mpr ⟨_, scanExponent_append hexponent hrest, rfl⟩

/-- A literal has a whole part, which begins with a digit. -/
theorem scanParts_cons {negative : Bool} {m : Numeral} (h : scanParts negative cs = some (m, r)) :
    ∃ c body, cs = c :: body ∧ c.isDigit = true := by
  obtain ⟨w, hwhole, -⟩ := Option.bind_eq_some_iff.mp h
  unfold scanWhole at hwhole
  split at hwhole
  · exact ⟨'0', _, rfl, rfl⟩
  · cases cs with
    | nil => cases hwhole
    | cons c body =>
      by_cases hdigit : c.isDigit = true
      · exact ⟨c, body, rfl, hdigit⟩
      · rw [List.takeWhile_cons_of_neg hdigit] at hwhole
        cases hwhole

/-- A literal begins with a digit or a sign. -/
theorem scan_cons {m : Numeral} (h : scan cs = some (m, r)) :
    ∃ c body, cs = c :: body ∧ (c.isDigit = true ∨ c = '-') := by
  by_cases hminus : ∃ body, cs = '-' :: body
  · obtain ⟨body, rfl⟩ := hminus
    exact ⟨_, _, rfl, .inr rfl⟩
  · rw [scan_of_ne fun body heq => hminus ⟨body, heq⟩] at h
    obtain ⟨c, body, rfl, hdigit⟩ := scanParts_cons h
    exact ⟨c, body, rfl, .inl hdigit⟩

/-- **A literal is cut off where it was written**, whatever value it stands in. -/
theorem scan_append {m : Numeral} (h : scan cs = some (m, r)) (hrest : EndsValue rest) :
    scan (cs ++ rest) = some (m, r ++ rest) := by
  by_cases hminus : ∃ body, cs = '-' :: body
  · obtain ⟨body, rfl⟩ := hminus
    exact scanParts_append h hrest
  · have hplain (body : List Char) : cs ≠ '-' :: body := fun heq => hminus ⟨body, heq⟩
    rw [scan_of_ne hplain] at h
    obtain ⟨c, body, rfl, -⟩ := scanParts_cons h
    rw [scan_of_ne]
    · exact scanParts_append h hrest
    · intro body' heq
      exact hplain body (by rw [(List.cons.inj heq).1])

/-! ## Integers -/

theorem scanWhole_toDigits (n : Nat) :
    scanWhole (Nat.toDigits 10 n) = some (Nat.toDigits 10 n, []) := by
  rcases Nat.eq_zero_or_pos n with rfl | hn
  · rfl
  · have hdigits : ∀ c ∈ Nat.toDigits 10 n, c.isDigit = true :=
      fun c => Nat.isDigit_of_mem_toDigits (by decide) (by decide)
    have htake := List.takeWhile_eq_self_iff.mpr hdigits
    have hdrop := List.dropWhile_eq_nil_iff.mpr hdigits
    unfold scanWhole
    split
    · rename_i hzero
      exact absurd hzero (toDigits_ne_zero_cons hn)
    · dsimp only
      rw [htake, hdrop, if_neg (by simp [Nat.toDigits_ne_nil])]

/-- The literal of an integer. -/
def ofInt (i : Int) : Numeral := ⟨decide (i < 0), Nat.toDigits 10 i.natAbs, [], none⟩

/-- **A written integer is read as its literal.** -/
theorem scan_intChars (i : Int) : scan (Json.intChars i) = some (ofInt i, []) := by
  have hparts (negative : Bool) : scanParts negative (Nat.toDigits 10 i.natAbs) =
      some (⟨negative, Nat.toDigits 10 i.natAbs, [], none⟩, []) := by
    rw [scanParts, scanWhole_toDigits]
    rfl
  unfold Json.intChars ofInt
  by_cases hneg : i < 0
  · rw [if_pos hneg, scan_minus, hparts, decide_eq_true hneg]
  · rw [if_neg hneg, scan_of_ne, hparts, decide_eq_false hneg]
    -- no digit is a sign
    intro body heq
    obtain ⟨c, cs, hcs, hdigit⟩ := toDigits_cons i.natAbs
    rw [hcs] at heq
    obtain rfl : c = '-' := (List.cons.inj heq).1
    exact absurd hdigit (by decide)

/-- The numbers of sixty-four bits, with a sign or without. -/
def Fits (i : Int) : Prop := -0x8000000000000000 ≤ i ∧ i ≤ 0xFFFFFFFFFFFFFFFF

/-- **The literal of an integer stands for it**, if it fits sixty-four bits. -/
theorem value?_ofInt {i : Int} (h : Fits i) : (ofInt i).value? = some (.int i) := by
  obtain ⟨hlo, hhi⟩ := h
  have hdigits : accumulate 0 (Nat.toDigits 10 i.natAbs) = (i.natAbs, []) :=
    accumulate_toDigits (by omega)
  unfold value? ofInt
  dsimp only
  rw [hdigits]
  dsimp only [List.isEmpty_nil]
  by_cases hneg : i < 0
  · have hnat : 0 < i.natAbs ∧ i.natAbs ≤ 0x8000000000000000 := by omega
    have hback : -(i.natAbs : Int) = i := by omega
    simp only [↓reduceIte, hneg, decide_true, Bool.not_true, Bool.false_eq_true, hnat, and_self,
      hback]
  · have hback : (i.natAbs : Int) = i := by omega
    simp only [↓reduceIte, hneg, decide_false, Bool.not_false, hback]

theorem accumulate_le (ds : List Char) (h : n ≤ 0xFFFFFFFFFFFFFFFF) :
    (accumulate n ds).1 ≤ 0xFFFFFFFFFFFFFFFF := by
  induction ds generalizing n with
  | nil => exact h
  | cons c ds ih =>
    rw [accumulate]
    split
    · rename_i hstep
      exact ih hstep
    · exact h

/-- A literal that stands for an integer stands for one of sixty-four bits. -/
theorem fits_of_value? {m : Numeral} {i : Int} (h : m.value? = some (.int i)) : Fits i := by
  have hsignificand := accumulate_le (n := 0) m.whole (Nat.zero_le _)
  have hfloat {x : Option Binary} : x.map Number.float ≠ some (.int i) := by
    cases x <;> nofun
  unfold value? at h
  dsimp only at h
  unfold Fits
  split at h
  · split at h
    · split at h
      · cases h
        omega
      · split at h
        · cases h
          omega
        · cases h
    · exact absurd h hfloat
  · split at h
    · exact absurd h hfloat
    · split at h
      · split at h
        · cases h
        · cases h
      · exact absurd h hfloat

end Numeral
end OfflineChat
