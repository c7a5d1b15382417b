import OfflineChat.Proofs.BlankEnds
import OfflineChat.Proofs.CodecSurvival
import OfflineChat.StreamChunk

/-! # Streamed text is recovered

A text can be written as a string literal in many ways: each of its characters may
stand for itself, if it can, or be escaped by a letter or by its code units
(`Document.Spells`).  Every way is read back (`Document.literal_of_spells`), so a
chunk that carries a piece of text in any of them is read as that piece
(`StreamChunk.decode_carrying`).

What a frame is read as is a matter of its payload, and a payload comes out the same
whatever blanks stand around it and whether or not it is marked as data
(`StreamChunk.Frames.payload_eq`).  Text that looks like a mark or like the end of the
stream does no harm inside a literal.  The main statement is
`StreamChunk.pieces_recovered`.
-/
namespace OfflineChat

namespace Document

/-! ## Spellings of a text -/

/-- Half of a surrogate pair. -/
def IsHalf (u : Nat) : Prop := isHigh u = true ∨ isLow u = true

instance (u : Nat) : Decidable (IsHalf u) := inferInstanceAs (Decidable (_ ∨ _))

/-- Characters between the quotes of a literal spell a text: each character of it stands for itself,
or is escaped by a letter, by its code unit, or by the two halves of a surrogate pair. -/
inductive Spells : List Char → List Char → Prop
  | nil : Spells [] []
  | plain {c : Char} {body cs : List Char} (hquote : c ≠ '"') (hslash : c ≠ '\\')
      (hcontrol : 0x20 ≤ c.toNat) (h : Spells body cs) : Spells (c :: body) (c :: cs)
  | letter {e c : Char} {body cs : List Char} (he : simpleEscape? e = some c)
      (h : Spells body cs) : Spells ('\\' :: e :: body) (c :: cs)
  | unit {w x y z : Char} {u : Nat} {body cs : List Char} (hu : unit? w x y z = some u)
      (hwhole : ¬ IsHalf u) (h : Spells body cs) :
      Spells ('\\' :: 'u' :: w :: x :: y :: z :: body) (Char.ofNat u :: cs)
  | pair {w x y z w' x' y' z' : Char} {high low : Nat} {body cs : List Char}
      (hhigh : unit? w x y z = some high) (hlow : unit? w' x' y' z' = some low)
      (hfirst : isHigh high = true) (hsecond : isLow low = true) (h : Spells body cs) :
      Spells ('\\' :: 'u' :: w :: x :: y :: z :: '\\' :: 'u' :: w' :: x' :: y' :: z' :: body)
        (ofPair high low :: cs)

variable {body cs rest : List Char}

theorem pieces_unit {w x y z : Char} {u : Nat} (hu : unit? w x y z = some u) (rest : List Char) :
    pieces ('\\' :: 'u' :: w :: x :: y :: z :: rest) = consPiece (.unit u) (pieces rest) := by
  rw [pieces, hu]

theorem pieces_letter {e c : Char} (he : simpleEscape? e = some c) (rest : List Char) :
    pieces ('\\' :: e :: rest) = consPiece (.char c) (pieces rest) := by
  -- the letter of a code unit escapes no character by itself
  have hne : e ≠ 'u' := by
    rintro rfl
    cases he
  rw [pieces, he]
  rintro w x y z rest' rfl
  exact absurd rfl hne

/-- A code unit that is no half of a pair is a character, whatever comes behind it. -/
theorem assemble_unit {u : Nat} (hwhole : ¬ IsHalf u) (ps : List Piece) :
    assemble (.unit u :: ps) = (assemble ps).map (Char.ofNat u :: ·) := by
  obtain ⟨hhigh, hlow⟩ := not_or.mp hwhole
  rw [Bool.not_eq_true] at hhigh hlow
  cases ps with
  | nil => simp [assemble, hlow, hhigh]
  | cons q qs => cases q <;> simp [assemble, hlow, hhigh]

theorem assemble_pair {high low : Nat} (hfirst : isHigh high = true) (hsecond : isLow low = true)
    (ps : List Piece) :
    assemble (.unit high :: .unit low :: ps) = (assemble ps).map (ofPair high low :: ·) := by
  have hnot : isLow high = false := by
    simp only [isHigh, isLow, Bool.and_eq_true, Bool.and_eq_false_iff, decide_eq_true_eq,
      decide_eq_false_iff_not] at hfirst ⊢
    omega
  simp [assemble, hnot, hfirst, hsecond]

theorem pieces_of_spells (h : Spells body cs) (rest : List Char) :
    ∃ ps, pieces (body ++ '"' :: rest) = some (ps, rest) ∧ assemble ps = some cs := by
  induction h with
  | nil => exact ⟨[], rfl, rfl⟩
  | @plain c body cs hquote hslash hcontrol _ ih =>
    obtain ⟨ps, hps, hcs⟩ := ih
    refine ⟨.char c :: ps, ?_, ?_⟩
    · rw [List.cons_append, pieces_of_plain hquote hslash (by omega), hps]
      rfl
    · rw [assemble, hcs]
      rfl
  | @letter e c body cs he _ ih =>
    obtain ⟨ps, hps, hcs⟩ := ih
    refine ⟨.char c :: ps, ?_, ?_⟩
    · rw [List.cons_append, List.cons_append, pieces_letter he, hps]
      rfl
    · rw [assemble, hcs]
      rfl
  | @unit w x y z u body cs hu hwhole _ ih =>
    obtain ⟨ps, hps, hcs⟩ := ih
    refine ⟨.unit u :: ps, ?_, ?_⟩
    · simp only [List.cons_append]
      rw [pieces_unit hu, hps]
      rfl
    · rw [assemble_unit hwhole, hcs]
      rfl
  | @pair w x y z w' x' y' z' high low body cs hhigh hlow hfirst hsecond _ ih =>
    obtain ⟨ps, hps, hcs⟩ := ih
    refine ⟨.unit high :: .unit low :: ps, ?_, ?_⟩
    · simp only [List.cons_append]
      rw [pieces_unit hhigh, pieces_unit hlow, hps]
      rfl
    · rw [assemble_pair hfirst hsecond, hcs]
      rfl

/-- **A literal is read as the text it spells**, however it spells it and whatever follows. -/
theorem literal_of_spells {s : String} (h : Spells body s.toList) (rest : List Char) :
    literal (body ++ '"' :: rest) = some (some s, rest) := by
  obtain ⟨ps, hps, hcs⟩ := pieces_of_spells h rest
  rw [literal, hps, Option.map_some, hcs, Option.map_some, String.ofList_toList]

theorem spells_escapeChar (c : Char) (h : Spells body cs) :
    Spells (Json.escapeChar c ++ body) (c :: cs) := by
  unfold Json.escapeChar
  split
  · subst c; exact .letter rfl h
  split
  · subst c; exact .letter rfl h
  split
  · subst c; exact .letter rfl h
  split
  · subst c; exact .letter rfl h
  split
  · subst c; exact .letter rfl h
  split
  · subst c; exact .letter rfl h
  split
  · subst c; exact .letter rfl h
  split
  · rename_i hcontrol
    have hwhole : ¬ IsHalf c.toNat := by
      simp [IsHalf, isHigh, isLow]
      omega
    have hunit := Spells.unit (unit?_hexDigits _ hcontrol) hwhole h
    rwa [Char.ofNat_toNat] at hunit
  · rename_i hquote hslash _ _ _ _ _ hcontrol
    exact .plain hquote hslash (by omega) h

/-- **Every text has a spelling**, the one that it is written in. -/
theorem spells_flatMap_escapeChar (cs : List Char) : Spells (cs.flatMap Json.escapeChar) cs := by
  induction cs with
  | nil => exact .nil
  | cons c cs ih =>
    rw [List.flatMap_cons]
    exact spells_escapeChar c ih

/-! ## Brackets around one part -/

variable {fuel : Nat} {v : Document} {c : Char}

theorem blank_nil : Blank [] := by
  intro c hc
  cases hc

/-- An object with one member, written without blanks. -/
theorem value_member {k : String} (hv : value fuel cs = (v, '}' :: rest))
    (hwhole : v.complete = true) :
    value (fuel + 2) ('{' :: (Json.literalChars k ++ ':' :: cs)) =
      (.obj [(some k, v)] .closed, rest) := by
  have hstop : value fuel cs = (v, [] ++ '}' :: rest) := hv
  have hmember := members_last (k := k) blank_nil blank_nil hstop hwhole
  have hobject (tail : List Char) : value (fuel + 2) ('{' :: ([] ++ '"' :: tail)) = _ :=
    value_brace blank_nil
  rw [List.nil_append, literalChars_append] at hmember
  rw [literalChars_append, ← List.nil_append ('"' :: _), hobject, List.nil_append, hmember]

/-- A list with one item, written without blanks. -/
theorem value_item (hc : isGap c = false) (hclose : c ≠ ']')
    (hv : value fuel (c :: cs) = (v, ']' :: rest)) (hwhole : v.complete = true) :
    value (fuel + 2) ('[' :: c :: cs) = (.arr [v] true, rest) := by
  have hstop : value fuel (c :: cs) = (v, [] ++ ']' :: rest) := hv
  have hitem := items_last blank_nil hstop hwhole
  have hlist : value (fuel + 2) ('[' :: ([] ++ c :: cs)) = _ := value_square blank_nil hc hclose
  rwa [List.nil_append, hitem] at hlist

end Document

namespace StreamChunk

open Document (Spells)
open Text (IsBlankText EndsWithout trim isBlank)

variable {body : List Char} {piece frame : String}

/-! ## Chunks that carry a piece -/

/-- What stands before the characters of a piece in a chunk that carries it. -/
def opening : String := "\x7b\"choices\":[\x7b\"delta\":\x7b\"content\":\""

/-- What stands behind them. -/
def closing : String := "\"\x7d\x7d]\x7d"

/-- The text of a chunk that carries a piece, given by the characters between the quotes. -/
def carrying (body : List Char) : String := opening ++ .ofList body ++ closing

/-- The chunk that adds a piece to an answer, and says nothing else. -/
def ofPiece (piece : String) : StreamChunk := ⟨"", "", 0, "", [⟨0, ⟨none, some piece⟩, none⟩]⟩

theorem text_ofPiece (piece : String) : (ofPiece piece).text = piece := by
  simp [ofPiece, text, String.join]

/-- The document of a chunk that carries a piece. -/
def documentOf (piece : String) : Document :=
  .obj [(some "choices", .arr [.obj [(some "delta",
    .obj [(some "content", .str (some piece))] .closed)] .closed] true)] .closed

theorem toList_opening :
    opening.toList = '{' :: (Json.literalChars "choices" ++ ':' :: '[' :: '{' ::
      (Json.literalChars "delta" ++ ':' :: '{' ::
        (Json.literalChars "content" ++ [':', '"']))) := by decide

theorem toList_closing : closing.toList = ['"', '}', '}', ']', '}'] := by decide

theorem toList_carrying (body : List Char) :
    (carrying body).toList = '{' :: (Json.literalChars "choices" ++ ':' :: '[' :: '{' ::
      (Json.literalChars "delta" ++ ':' :: '{' :: (Json.literalChars "content" ++ ':' :: '"' ::
        (body ++ '"' :: ['}', '}', ']', '}'])))) := by
  rw [carrying, String.toList_append, String.toList_append, String.toList_ofList,
    toList_opening, toList_closing]
  simp only [List.cons_append, List.append_assoc, List.nil_append]

/-- **A chunk that carries a piece is read as it**, in whatever way the piece is spelled. -/
theorem value_carrying (h : Spells body piece.toList) (fuel : Nat) :
    Document.value (fuel + 9) (carrying body).toList = (documentOf piece, []) := by
  have hliteral := Document.value_quote fuel (Document.literal_of_spells h ['}', '}', ']', '}'])
  have hcontent := Document.value_member (k := "content") hliteral rfl
  have hdelta := Document.value_member (k := "delta") hcontent rfl
  have hlist := Document.value_item (by decide) (by decide) hdelta rfl
  have hchoices := Document.value_member (k := "choices") hlist rfl
  rw [toList_carrying]
  exact hchoices

theorem ofText_carrying (h : Spells body piece.toList) :
    Document.ofText (carrying body) = (documentOf piece, true) := by
  have hfuel : 9 ≤ 2 * (carrying body).toList.length + 2 := by
    rw [toList_carrying]
    simp only [List.length_cons, List.length_append]
    omega
  obtain ⟨n, hn⟩ := Nat.exists_eq_add_of_le' hfuel
  rw [Document.ofText, hn, value_carrying h]
  rfl

theorem decode_carrying (h : Spells body piece.toList) :
    codec.decode (carrying body) = .ok (ofPiece piece) := by
  rw [Codec.decode, ofText_carrying h]
  rfl

/-! ## Payloads and their frames -/

/-- What marks a line as data. -/
def mark : String := "data:"

/-- Frames that hold a text: by itself or on a line that is marked as data, with any blanks before
the mark, behind it and at the end. -/
inductive Frames (content : String) : String → Prop
  | bare {before after : String} (hbefore : IsBlankText before) (hafter : IsBlankText after) :
      Frames content (before ++ content ++ after)
  | line {before gap after : String} (hbefore : IsBlankText before) (hgap : IsBlankText gap)
      (hafter : IsBlankText after) : Frames content (before ++ (mark ++ (gap ++ content)) ++ after)

/-- The text does not begin with the mark. -/
def Unmarked (s : String) : Prop := ¬ mark.toList <+: s.toList

instance (s : String) : Decidable (Unmarked s) := inferInstanceAs (Decidable (¬ _ <+: _))

theorem payload_of_unmarked (h : Unmarked (trim frame)) : payload frame = trim frame := by
  have hnone : "data:".toList.isPrefixOf? (trim frame).toList = none := by
    refine Option.eq_none_iff_forall_not_mem.mpr fun rest hrest => h ⟨rest, ?_⟩
    exact List.isPrefixOf?_eq_some_iff_append_eq.mp hrest
  simp only [payload, hnone]

theorem payload_of_marked {rest : List Char} (h : (trim frame).toList = mark.toList ++ rest) :
    payload frame = trim (.ofList rest) := by
  have hsome : "data:".toList.isPrefixOf? (trim frame).toList = some rest :=
    List.isPrefixOf?_eq_some_iff_append_eq.mpr h.symm
  simp only [payload, hsome]

/-- **The payload of a marked line is the text on it**, whatever it begins with. -/
theorem payload_line {before gap after : String} (hbefore : IsBlankText before)
    (hgap : IsBlankText gap) (hafter : IsBlankText after) (content : String) :
    payload (before ++ (mark ++ (gap ++ content)) ++ after) = trim content := by
  have hends : EndsWithout isBlank mark.toList := by
    constructor <;> · rintro a ⟨⟩; decide
  have htrim : (trim (before ++ (mark ++ (gap ++ content)) ++ after)).toList =
      mark.toList ++ Text.dropEndWhile isBlank (gap ++ content).toList := by
    rw [Text.trim_append hbefore hafter, Text.toList_trim, String.toList_append,
      Text.strip_of_front (by decide) hends]
  have hgapped : trim (gap ++ content ++ "") = trim content :=
    Text.trim_append hgap Text.isBlankText_empty content
  rw [payload_of_marked htrim, trim, String.toList_ofList, Text.strip_dropEndWhile, ← trim,
    ← hgapped, String.append_empty]

/-- **The payload of a frame is the text that it holds**, if that does not look like a marked line
itself. -/
theorem Frames.payload_eq {content : String} (h : Frames content frame)
    (hcontent : Unmarked (trim content)) : payload frame = trim content := by
  cases h with
  | bare hbefore hafter =>
    have htrim := Text.trim_append hbefore hafter content
    rw [payload_of_unmarked (by rwa [htrim]), htrim]
  | line hbefore hgap hafter => exact payload_line hbefore hgap hafter content

/-- Whatever is in them, frames are read alike if their payloads are. -/
theorem ofFrame_congr {other : String} (h : payload frame = payload other) :
    ofFrame frame = ofFrame other := by
  simp only [ofFrame, h]

theorem ofFrame_eq_none_iff : ofFrame frame = .ok none ↔ payload frame = endMark := by
  rw [ofFrame]
  split
  · simp [*]
  · split <;> simp [*]

theorem ofFrame_of_decode {chunk : StreamChunk} (hopen : payload frame ≠ endMark)
    (h : codec.decode (payload frame) = .ok chunk) : ofFrame frame = .ok (some chunk) := by
  simp only [ofFrame, if_neg hopen, h]

/-! ## Pieces -/

/-- A frame that brings a piece: it holds a chunk that carries the piece in some spelling. -/
def Brings (piece frame : String) : Prop :=
  ∃ body, Spells body piece.toList ∧ Frames (carrying body) frame

theorem head?_carrying (body : List Char) : (carrying body).toList.head? = some '{' := by
  rw [toList_carrying]
  rfl

theorem trim_carrying (body : List Char) : trim (carrying body) = carrying body := by
  refine Text.trim_eq_self ⟨?_, ?_⟩
  · rw [head?_carrying]
    rintro a ⟨⟩
    decide
  · have hlast : (carrying body).toList.getLast? = some '}' := by
      rw [carrying, String.toList_append, toList_closing]
      exact List.getLast?_append_of_ne_nil _ (by simp)
    rw [hlast]
    rintro a ⟨⟩
    decide

theorem unmarked_carrying (body : List Char) : Unmarked (carrying body) := by
  rintro ⟨rest, hrest⟩
  have hhead := head?_carrying body
  rw [← hrest, List.head?_append_of_ne_nil _ (by decide)] at hhead
  exact absurd hhead (by decide)

theorem carrying_ne_endMark (body : List Char) : carrying body ≠ endMark := by
  intro hmark
  have hhead := head?_carrying body
  rw [hmark] at hhead
  exact absurd hhead (by decide)

/-- **A frame that brings a piece is read as the chunk that adds it.** -/
theorem Brings.ofFrame_eq (h : Brings piece frame) :
    ofFrame frame = .ok (some (ofPiece piece)) := by
  obtain ⟨body, hbody, hframe⟩ := h
  have hpayload : payload frame = carrying body := by
    have hread := hframe.payload_eq (by rw [trim_carrying]; exact unmarked_carrying body)
    rwa [trim_carrying] at hread
  refine ofFrame_of_decode ?_ ?_
  · rw [hpayload]
    exact carrying_ne_endMark body
  · rw [hpayload]
    exact decode_carrying hbody

theorem mapM_ofFrame {pieces frames : List String} (h : List.Forall₂ Brings pieces frames) :
    frames.mapM ofFrame = .ok ((pieces.map ofPiece).map some) := by
  induction h with
  | nil => rfl
  | cons hfirst _ ih =>
    rw [List.mapM_cons, hfirst.ofFrame_eq, ih]
    rfl

/-- Every piece can be brought, in the spelling it is written in. -/
theorem brings_escaped (piece : String)
    (h : Frames (carrying (piece.toList.flatMap Json.escapeChar)) frame) : Brings piece frame :=
  ⟨_, Document.spells_flatMap_escapeChar piece.toList, h⟩

/-- **Streamed text is recovered exactly.**  Frames that bring pieces of text, spelled and framed in
any way, are read as chunks that add those pieces one by one, and every text can be brought in any
frame.  Whatever text a frame holds, if it does not look like a marked line itself, the frame is
read as the text is alone, and it ends the stream if the text is the end mark and only then. -/
theorem pieces_recovered :
    (∀ pieces frames, List.Forall₂ Brings pieces frames →
      ∃ chunks : List StreamChunk, frames.mapM ofFrame = .ok (chunks.map some) ∧
        chunks.map text = pieces ∧ String.join (chunks.map text) = String.join pieces) ∧
    (∀ piece frame, Frames (carrying (piece.toList.flatMap Json.escapeChar)) frame →
      Brings piece frame) ∧
    ∀ content frame, Unmarked (trim content) → Frames content frame →
      ofFrame frame = ofFrame content ∧ (ofFrame frame = .ok none ↔ trim content = endMark) := by
  refine ⟨fun pieces frames h => ?_, fun piece frame h => brings_escaped piece h,
    fun content frame hcontent h => ?_⟩
  · have htexts : (pieces.map ofPiece).map text = pieces := by
      rw [List.map_map]
      exact (List.map_congr_left fun piece _ => text_ofPiece piece).trans (List.map_id _)
    exact ⟨pieces.map ofPiece, mapM_ofFrame h, htexts, by rw [htexts]⟩
  · have hframe := h.payload_eq hcontent
    refine ⟨ofFrame_congr (hframe.trans (payload_of_unmarked hcontent).symm), ?_⟩
    rw [ofFrame_eq_none_iff, hframe]

/-- A control character and a pair of halves, by their code units. -/
def inUnits : List Char :=
  ['\\', 'u', '0', '0', '0', '0', '\\', 'u', 'D', '8', '3', 'D', '\\', 'u', 'd', 'e', '0', '0']

/-- Frames that bring a piece that reads like the end mark, one that reads like a marked line, and
one that is spelled by code units. -/
def oddFrames : List String :=
  ["\t\x7b\"choices\":[\x7b\"delta\":\x7b\"content\":\"[DONE]\"\x7d\x7d]\x7d\r\n",
   " data:\x7b\"choices\":[\x7b\"delta\":\x7b\"content\":\"data: x\\n\"\x7d\x7d]\x7d",
   "data: \x7b\"choices\":[\x7b\"delta\":\x7b\"content\":\"\\u0000\\uD83D\\ude00\"\x7d\x7d]\x7d\n"]

theorem pieces_recovered_odd :
    (∃ chunks : List StreamChunk, oddFrames.mapM ofFrame = .ok (chunks.map some) ∧
      chunks.map text = ["[DONE]", "data: x\n", "\x00😀"] ∧
      String.join (chunks.map text) = String.join ["[DONE]", "data: x\n", "\x00😀"]) ∧
    ofFrame "data: [DONE] " = ofFrame "[DONE]" ∧
    (ofFrame "data: [DONE] " = .ok none ↔ trim "[DONE]" = endMark) := by
  obtain ⟨hpieces, hbrings, hframe⟩ := pieces_recovered
  have hframes : oddFrames =
      ["\t" ++ carrying ("[DONE]".toList.flatMap Json.escapeChar) ++ "\r\n",
       " " ++ (mark ++ ("" ++ carrying ("data: x\n".toList.flatMap Json.escapeChar))) ++ "",
       "" ++ (mark ++ (" " ++ carrying inUnits)) ++ "\n"] := by
    decide +kernel
  have hunits : Spells inUnits "\x00😀".toList := by
    have hcs : "\x00😀".toList = [Char.ofNat 0, Document.ofPair 0xD83D 0xDE00] := by decide
    rw [hcs]
    exact .unit (by decide) (by decide) (.pair (by decide) (by decide) (by decide) (by decide) .nil)
  have hall : List.Forall₂ Brings ["[DONE]", "data: x\n", "\x00😀"] oddFrames := by
    rw [hframes]
    refine .cons (hbrings _ _ ?_) (.cons (hbrings _ _ ?_) (.cons ⟨_, hunits, ?_⟩ .nil))
    · exact .bare (by decide) (by decide)
    · exact .line (by decide) (by decide) (by decide)
    · exact .line (by decide) (by decide) (by decide)
  have hend : Frames "[DONE]" ("" ++ (mark ++ (" " ++ "[DONE]")) ++ " ") :=
    .line (by decide) (by decide) (by decide)
  have hmark : "" ++ (mark ++ (" " ++ "[DONE]")) ++ " " = "data: [DONE] " := by decide
  rw [hmark] at hend
  exact ⟨hpieces _ _ hall, hframe _ _ (by decide) hend⟩

end StreamChunk
end OfflineChat
