import OfflineChat.Json.Codec

/-! # Written texts are read back

A text written as a string literal is read back as it was, whatever characters
it holds and whatever follows the literal (`Document.literal_flatMap_escapeChar`):
an escape of one letter or of four digits names the character it was written
for, and every other character stands for itself.
-/
namespace OfflineChat
namespace Document

/-! ## Characters -/

/-- The digits of a control character name its code. -/
theorem unit?_hexDigits : ∀ n < 0x20,
    unit? '0' '0' (Json.hexDigit (n / 16)) (Json.hexDigit (n % 16)) = some n := by decide

/-- What a written character is read as: itself, or the unit of its code if it is a control
character. -/
inductive IsPieceOf (c : Char) : Piece → Prop
  | char : IsPieceOf c (.char c)
  | unit (h : c.toNat < 0x20) : IsPieceOf c (.unit c.toNat)

theorem pieces_of_plain {c : Char} {rest : List Char} (hquote : c ≠ '"') (hslash : c ≠ '\\')
    (hcontrol : ¬ c.toNat < 0x20) : pieces (c :: rest) = consPiece (.char c) (pieces rest) := by
  rw [pieces]
  · rw [if_neg (by simp [hcontrol, hslash])]
  · exact hquote
  · rintro a b c d rest h -
    exact hslash h
  · rintro c rest h -
    exact hslash h

/-- **A written character is read as one piece**, whatever follows it. -/
theorem pieces_escapeChar (c : Char) (rest : List Char) :
    ∃ p, IsPieceOf c p ∧ pieces (Json.escapeChar c ++ rest) = consPiece p (pieces rest) := by
  unfold Json.escapeChar
  split
  · subst c; exact ⟨_, .char, rfl⟩
  split
  · subst c; exact ⟨_, .char, rfl⟩
  split
  · subst c; exact ⟨_, .char, rfl⟩
  split
  · subst c; exact ⟨_, .char, rfl⟩
  split
  · subst c; exact ⟨_, .char, rfl⟩
  split
  · subst c; exact ⟨_, .char, rfl⟩
  split
  · subst c; exact ⟨_, .char, rfl⟩
  split
  · rename_i hcontrol
    refine ⟨_, .unit hcontrol, ?_⟩
    simp only [List.cons_append, List.nil_append]
    rw [pieces, unit?_hexDigits _ hcontrol]
  · rename_i hquote hslash _ _ _ _ _ hcontrol
    exact ⟨_, .char, pieces_of_plain hquote hslash hcontrol⟩

/-- The piece of a character is assembled to that character. -/
theorem assemble_cons {c : Char} {p : Piece} (h : IsPieceOf c p) (ps : List Piece) :
    assemble (p :: ps) = (assemble ps).map (c :: ·) := by
  cases h with
  | char => rfl
  | unit hcontrol =>
    -- a control character is no half of a surrogate pair
    have hlow : isLow c.toNat = false := by simp [isLow]; omega
    have hhigh : isHigh c.toNat = false := by simp [isHigh]; omega
    have hchar : Char.ofNat c.toNat = c := Char.ofNat_toNat c
    cases ps with
    | nil => simp [assemble, hlow, hhigh, hchar]
    | cons q qs => cases q <;> simp [assemble, hlow, hhigh, hchar]

/-! ## Literals -/

theorem pieces_flatMap_escapeChar (cs rest : List Char) :
    ∃ ps, pieces (cs.flatMap Json.escapeChar ++ '"' :: rest) = some (ps, rest) ∧
      assemble ps = some cs := by
  induction cs with
  | nil => exact ⟨[], rfl, rfl⟩
  | cons c cs ih =>
    obtain ⟨ps, hps, hcs⟩ := ih
    obtain ⟨p, hp, hpieces⟩ := pieces_escapeChar c (cs.flatMap Json.escapeChar ++ '"' :: rest)
    refine ⟨p :: ps, ?_, ?_⟩
    · rw [List.flatMap_cons, List.append_assoc, hpieces, hps]
      rfl
    · rw [assemble_cons hp, hcs]
      rfl

/-- **A written text is read back as it was**, and reading goes on behind it. -/
theorem literal_flatMap_escapeChar (s : String) (rest : List Char) :
    literal (s.toList.flatMap Json.escapeChar ++ '"' :: rest) = some (some s, rest) := by
  obtain ⟨ps, hps, hcs⟩ := pieces_flatMap_escapeChar s.toList rest
  rw [literal, hps, Option.map_some, hcs, Option.map_some, String.ofList_toList]

theorem value_quote (fuel : Nat) {cs rest : List Char} {s : Option String}
    (h : literal cs = some (s, rest)) : value (fuel + 1) ('"' :: cs) = (.str s, rest) := by
  have hgap : skipGaps ('"' :: cs) = '"' :: cs := rfl
  unfold value
  simp only [hgap, h]

theorem value_literalChars (fuel : Nat) (s : String) (rest : List Char) :
    value (fuel + 1) (Json.literalChars s ++ rest) = (.str (some s), rest) := by
  have hshape : Json.literalChars s ++ rest =
      '"' :: (s.toList.flatMap Json.escapeChar ++ '"' :: rest) := by
    simp [Json.literalChars]
  rw [hshape, value_quote fuel (literal_flatMap_escapeChar s rest)]

end Document
end OfflineChat
