import OfflineChat.Text.Utf8

/-! # Texts are read back from their octets

The octets of a character are read as that character, whatever follows them
(`Text.next_utf8EncodeChar`): the leading octet tells how many belong to it, and the
bounds for the octet behind it leave out just the sequences that no character is
written as.  So a text is read back from its octets (`Text.decode?_toUTF8`).
-/
namespace OfflineChat
namespace Text

/-! ## Octets -/

theorem toNat_ofNat_octet {n : Nat} (h : n < 256) : (UInt8.ofNat n).toNat = n := by
  simpa using h

theorem lead?_two : ∀ n < 32, 2 ≤ n → lead? (UInt8.ofNat (n + 0xC0)) = some ⟨n, 0x80, 0xBF, 0⟩ := by
  decide

theorem lead?_three : ∀ n < 16, lead? (UInt8.ofNat (n + 0xE0)) =
    some ⟨n, if n = 0 then 0xA0 else 0x80, if n = 13 then 0x9F else 0xBF, 1⟩ := by
  decide

theorem lead?_four : ∀ n < 5, lead? (UInt8.ofNat (n + 0xF0)) =
    some ⟨n, if n = 0 then 0x90 else 0x80, if n = 4 then 0x8F else 0xBF, 2⟩ := by
  decide

variable {k m n bits : Nat} {rest : List UInt8}

theorem continuation_cons (hm : m < 64) :
    continuation (k + 1) bits (UInt8.ofNat (m + 0x80) :: rest) =
      continuation k (bits * 64 + m) rest := by
  have hoctet : (UInt8.ofNat (m + 0x80)).toNat = m + 0x80 := toNat_ofNat_octet (by omega)
  have hbounds : 0x80 ≤ UInt8.ofNat (m + 0x80) ∧ UInt8.ofNat (m + 0x80) ≤ 0xBF := by
    rw [UInt8.le_iff_toNat_le, UInt8.le_iff_toNat_le, hoctet]
    exact ⟨Nat.le_add_left _ _, show m + 0x80 ≤ 0xBF by omega⟩
  rw [continuation, if_pos (by simpa using hbounds), hoctet, Nat.add_sub_cancel]

/-- A leading octet and one that fits behind it begin a character. -/
theorem next_of_lead {b : UInt8} {l : Lead} (hb : ¬ b < 0x80) (hlead : lead? b = some l)
    (hm : m < 64) (hleast : l.least.toNat ≤ m + 0x80) (hgreatest : m + 0x80 ≤ l.greatest.toNat) :
    next b (UInt8.ofNat (m + 0x80) :: rest) =
      ((continuation l.more (l.bits * 64 + m) rest).1.map Char.ofNat,
        (continuation l.more (l.bits * 64 + m) rest).2) := by
  have hoctet : (UInt8.ofNat (m + 0x80)).toNat = m + 0x80 := toNat_ofNat_octet (by omega)
  have hbounds : l.least ≤ UInt8.ofNat (m + 0x80) ∧ UInt8.ofNat (m + 0x80) ≤ l.greatest := by
    rw [UInt8.le_iff_toNat_le, UInt8.le_iff_toNat_le, hoctet]
    exact ⟨hleast, hgreatest⟩
  simp only [next, if_neg hb, hlead, hbounds, decide_true, Bool.and_self, if_true, hoctet,
    Nat.add_sub_cancel]

theorem not_lt_of_lead (hn : 0x80 ≤ n) (hlt : n < 256) : ¬ UInt8.ofNat n < 0x80 := by
  rw [UInt8.lt_iff_toNat_lt, toNat_ofNat_octet hlt]
  exact Nat.not_lt.mpr hn

/-! ## Characters and texts -/

/-- **The octets of a character are read as that character**, whatever follows them. -/
theorem next_utf8EncodeChar (c : Char) (rest : List UInt8) :
    ∃ b bs, String.utf8EncodeChar c = b :: bs ∧ next b (bs ++ rest) = (some c, rest) := by
  have hvalid : c.toNat < 0xD800 ∨ 0xDFFF < c.toNat ∧ c.toNat < 0x110000 := c.valid
  have hchar : Char.ofNat c.toNat = c := Char.ofNat_toNat c
  unfold String.utf8EncodeChar
  rw [show c.val.toNat = c.toNat from rfl]
  dsimp only
  split
  · next h1 =>
    refine ⟨_, _, rfl, ?_⟩
    have hoctet : (UInt8.ofNat c.toNat).toNat = c.toNat := toNat_ofNat_octet (by omega)
    have hplain : UInt8.ofNat c.toNat < 0x80 := by
      rw [UInt8.lt_iff_toNat_lt, hoctet]
      exact Nat.lt_succ_of_le h1
    simp only [next, if_pos hplain, hoctet, hchar, List.nil_append]
  · next h1 =>
    split
    · next h2 =>
      refine ⟨_, _, rfl, ?_⟩
      have hbits : c.toNat / 64 * 64 + c.toNat % 64 = c.toNat := by omega
      rw [show c.toNat / 64 % 0x20 = c.toNat / 64 by omega, List.cons_append, List.nil_append]
      refine (next_of_lead (not_lt_of_lead (by omega) (by omega))
        (lead?_two _ (by omega) (by omega)) (by omega) ?_ ?_).trans ?_
      · exact Nat.le_add_left _ _
      · show _ ≤ 0xBF
        omega
      · simp only [continuation, hbits, Option.map_some, hchar]
    · next h2 =>
      split
      · next h3 =>
        refine ⟨_, _, rfl, ?_⟩
        have hbits : (c.toNat / 4096 * 64 + c.toNat / 64 % 64) * 64 + c.toNat % 64 = c.toNat := by
          omega
        rw [show c.toNat / 4096 % 0x10 = c.toNat / 4096 by omega]
        simp only [List.cons_append, List.nil_append]
        refine (next_of_lead (not_lt_of_lead (by omega) (by omega))
          (lead?_three _ (by omega)) (by omega) ?_ ?_).trans ?_
        · dsimp only
          split
          · show 0xA0 ≤ _
            omega
          · exact Nat.le_add_left _ _
        · dsimp only
          split
          · show _ ≤ 0x9F
            omega
          · show _ ≤ 0xBF
            omega
        · rw [continuation_cons (by omega)]
          simp only [continuation, hbits, Option.map_some, hchar]
      · next h3 =>
        refine ⟨_, _, rfl, ?_⟩
        have hbits : ((c.toNat / 262144 * 64 + c.toNat / 4096 % 64) * 64 + c.toNat / 64 % 64) * 64 +
            c.toNat % 64 = c.toNat := by omega
        rw [show c.toNat / 262144 % 0x08 = c.toNat / 262144 by omega]
        simp only [List.cons_append, List.nil_append]
        refine (next_of_lead (not_lt_of_lead (by omega) (by omega))
          (lead?_four _ (by omega)) (by omega) ?_ ?_).trans ?_
        · dsimp only
          split
          · show 0x90 ≤ _
            omega
          · exact Nat.le_add_left _ _
        · dsimp only
          split
          · show _ ≤ 0x8F
            omega
          · show _ ≤ 0xBF
            omega
        · rw [continuation_cons (by omega), continuation_cons (by omega)]
          simp only [continuation, hbits, Option.map_some, hchar]

/-- The octets of characters are read as these characters. -/
theorem scan_flatMap_utf8EncodeChar (cs : List Char) :
    scan (cs.flatMap String.utf8EncodeChar) = cs.map some := by
  induction cs with
  | nil => simp [scan]
  | cons c cs ih =>
    obtain ⟨b, bs, hoctets, hnext⟩ := next_utf8EncodeChar c (cs.flatMap String.utf8EncodeChar)
    rw [List.flatMap_cons, hoctets, List.cons_append, scan, hnext, ih]
    rfl

theorem mapM_id_map_some {α : Type} (as : List α) : (as.map some).mapM id = some as := by
  induction as with
  | nil => rfl
  | cons a as ih => simp [List.mapM_cons, ih]

theorem toList_loop (bs : ByteArray) (i : Nat) (acc : List UInt8) :
    ByteArray.toList.loop bs i acc = acc.reverse ++ bs.data.toList.drop i := by
  fun_induction ByteArray.toList.loop bs i acc with
  | case1 i acc hlt ih =>
    have hlength : i < bs.data.toList.length := by simpa using hlt
    have hget : bs.get! i = bs.data.toList[i] := by
      show bs.data[i]! = _
      rw [getElem!_pos bs.data i hlt, Array.getElem_toList]
    rw [ih, List.drop_eq_getElem_cons hlength, hget, List.reverse_cons, List.append_assoc]
    rfl
  | case2 i acc hlt =>
    rw [List.drop_eq_nil_of_le (by simpa using Nat.le_of_not_lt hlt), List.append_nil]

/-- The octets of a text are those of its characters. -/
theorem toList_toUTF8 (s : String) :
    s.toUTF8.toList = s.toList.flatMap String.utf8EncodeChar := by
  have hencode : s.toUTF8 = (s.toList.flatMap String.utf8EncodeChar).toByteArray :=
    String.utf8Encode_toList.symm
  rw [ByteArray.toList, toList_loop, hencode, List.toList_data_toByteArray]
  rfl

/-- **A text is read back from its octets.** -/
theorem decode?_toUTF8 (s : String) : decode? s.toUTF8.toList = some s := by
  rw [decode?, toList_toUTF8, scan_flatMap_utf8EncodeChar, mapM_id_map_some, Option.map_some,
    String.ofList_toList]

end Text
end OfflineChat
