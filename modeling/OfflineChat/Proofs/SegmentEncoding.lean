import OfflineChat.Proofs.LetterCase
import OfflineChat.Url.Edit

/-! # Encoded segments are read back

An octet that is written as a triple is read back (`percentDecode_triple`), and so
is a text in which the characters of a set are encoded, if the percent sign is
among them (`percentDecode_percentEncode`).  Different texts are therefore written
differently (`writtenSegment_injective`), and a segment that is written for a text
is none of the ways to write dots, unless the text is dots itself.

What a path makes of a segment depends on that.  A plain text becomes one segment
of its own (`descend_of_isPlain`); and if a text becomes a segment that is not
empty, it is the written form of the text without its line breaks
(`foldl_descend_eq_append`).
-/
namespace OfflineChat

/-- Different texts have different octets. -/
theorem Text.encode_injective {s t : String} (h : encode s = encode t) : s = t := by
  refine String.toByteArray_inj.mp ?_
  rw [← String.utf8Encode_toList, ← String.utf8Encode_toList]
  exact congrArg List.toByteArray h

namespace Url

/-! ## Triples and characters -/

theorem hexValue?_hexDigit : ∀ n < 16, hexValue? (hexDigit n) = some n := by decide

theorem hexDigit_isAlphanum : ∀ n < 16, (hexDigit n).isAlphanum = true := by decide

theorem octetOf?_hexDigit (b : UInt8) :
    octetOf? (hexDigit (b.toNat / 16)) (hexDigit (b.toNat % 16)) = some b := by
  have hlt : b.toNat < 256 := b.toNat_lt
  have hhigh := hexValue?_hexDigit (b.toNat / 16) (by omega)
  have hlow := hexValue?_hexDigit (b.toNat % 16) (by omega)
  have hsum : b.toNat / 16 * 16 + b.toNat % 16 = b.toNat := by omega
  rw [octetOf?, hhigh, hlow]
  exact congrArg some ((congrArg UInt8.ofNat hsum).trans UInt8.ofNat_toNat)

/-- **An octet that is written as a triple is read back**, whatever follows it. -/
theorem percentDecode_triple (b : UInt8) (rest : List Char) :
    percentDecode (triple b ++ rest) = b :: percentDecode rest := by
  simp only [triple, List.cons_append, List.nil_append]
  rw [percentDecode, octetOf?_hexDigit]

theorem percentDecode_flatMap_triple (bs : List UInt8) (rest : List Char) :
    percentDecode (bs.flatMap triple ++ rest) = bs ++ percentDecode rest := by
  induction bs with
  | nil => rfl
  | cons b bs ih =>
    rw [List.flatMap_cons, List.append_assoc, percentDecode_triple, ih, List.cons_append]

theorem percentDecode_cons_of_ne {c : Char} (h : c ≠ '%') (rest : List Char) :
    percentDecode (c :: rest) = String.utf8EncodeChar c ++ percentDecode rest := by
  rw [percentDecode]
  rintro a b cs rfl
  exact absurd rfl h

variable {set : Char → Bool}

theorem percentDecode_encodeChar (hset : set '%' = true) (c : Char) (rest : List Char) :
    percentDecode (encodeChar set c ++ rest) = String.utf8EncodeChar c ++ percentDecode rest := by
  unfold encodeChar
  split
  · rename_i hplain
    refine percentDecode_cons_of_ne ?_ rest
    rintro rfl
    simp [hset] at hplain
  · exact percentDecode_flatMap_triple _ rest

/-- **A text with the characters of a set encoded is read back**, if the percent sign is one of
them. -/
theorem percentDecode_percentEncode (hset : set '%' = true) (cs : List Char) :
    percentDecode (percentEncode set cs) = cs.flatMap String.utf8EncodeChar := by
  induction cs with
  | nil => rfl
  | cons c cs ih =>
    rw [percentEncode, List.flatMap_cons, percentDecode_encodeChar hset, List.flatMap_cons]
    exact congrArg _ ih

theorem mem_triple {c : Char} {b : UInt8} (h : c ∈ triple b) : c = '%' ∨ c.isAlphanum = true := by
  have hlt : b.toNat < 256 := b.toNat_lt
  rcases List.mem_cons.mp h with rfl | h
  · exact .inl rfl
  · refine .inr ?_
    rcases List.mem_cons.mp h with rfl | h
    · exact hexDigit_isAlphanum _ (by omega)
    · rw [List.mem_singleton.mp h]
      exact hexDigit_isAlphanum _ (by omega)

/-- A character of the set does not stand in an encoded text, unless triples are made of it. -/
theorem not_mem_percentEncode {c : Char} (hset : set c = true) (hmark : c ≠ '%')
    (hdigit : c.isAlphanum = false) (cs : List Char) : c ∉ percentEncode set cs := by
  intro h
  obtain ⟨d, -, hd⟩ := List.mem_flatMap.mp h
  unfold encodeChar at hd
  split at hd
  · rename_i hplain
    rw [List.mem_singleton.mp hd] at hset
    simp [hset] at hplain
  · obtain ⟨b, -, hb⟩ := List.mem_flatMap.mp hd
    rcases mem_triple hb with rfl | hc
    · exact hmark rfl
    · rw [hdigit] at hc
      cases hc

/-! ## Dots -/

/-- Every way to write one dot is read back as it. -/
theorem percentDecode_of_isHere {s : String} (h : isHere s = true) :
    percentDecode s.toList = Text.encode "." := by
  have hs : s ∈ [".", "%2e", "%2E"] := of_decide_eq_true h
  simp only [List.mem_cons, List.not_mem_nil, or_false] at hs
  rcases hs with rfl | rfl | rfl <;> decide

/-- Every way to write two dots is read back as them. -/
theorem percentDecode_of_isAbove {s : String} (h : isAbove s = true) :
    percentDecode s.toList = Text.encode ".." := by
  have hs : Text.asciiLower s ∈ ["..", "%2e%2e", "%2e.", ".%2e"] := of_decide_eq_true h
  simp only [List.mem_cons, List.not_mem_nil, or_false] at hs
  have hlower {t : List Char} (ht : Text.asciiLower s = String.ofList t) :
      s.toList.map Text.asciiLowerChar = t := by
    have hlist := congrArg String.toList ht
    rwa [Text.asciiLower, String.toList_ofList, String.toList_ofList] at hlist
  have hcases : s.toList.map Text.asciiLowerChar ∈
      [['.', '.'], ['%', '2', 'e', '%', '2', 'e'], ['%', '2', 'e', '.'], ['.', '%', '2', 'e']] := by
    simp only [List.mem_cons, List.not_mem_nil, or_false]
    exact hs.imp hlower fun hs => hs.imp hlower fun hs => hs.imp hlower hlower
  -- apart from the letter, what stands in lower case stands so in the text itself
  have hdot (c : Char) : Text.asciiLowerChar c = '.' ↔ c = '.' :=
    Text.asciiLowerChar_eq_iff (by decide)
  have hmark (c : Char) : Text.asciiLowerChar c = '%' ↔ c = '%' :=
    Text.asciiLowerChar_eq_iff (by decide)
  have htwo (c : Char) : Text.asciiLowerChar c = '2' ↔ c = '2' :=
    Text.asciiLowerChar_eq_iff (by decide)
  generalize s.toList = cs at hcases
  simp only [List.mem_cons, List.not_mem_nil, or_false, List.map_eq_cons_iff, List.map_eq_nil_iff,
    hdot, hmark, htwo, Text.asciiLowerChar_eq_e] at hcases
  rcases hcases with h | h | h | h
  · obtain ⟨_, _, rfl, rfl, _, _, rfl, rfl, rfl⟩ := h
    decide
  · obtain ⟨_, _, rfl, rfl, _, _, rfl, rfl, _, _, rfl, he, _, _, rfl, rfl, _, _, rfl, rfl, _, _,
      rfl, he', rfl⟩ := h
    rcases he with rfl | rfl <;> rcases he' with rfl | rfl <;> decide
  · obtain ⟨_, _, rfl, rfl, _, _, rfl, rfl, _, _, rfl, he, _, _, rfl, rfl, rfl⟩ := h
    rcases he with rfl | rfl <;> decide
  · obtain ⟨_, _, rfl, rfl, _, _, rfl, rfl, _, _, rfl, rfl, _, _, rfl, he, rfl⟩ := h
    rcases he with rfl | rfl <;> decide

/-! ## Written segments -/

/-- A text that stands for itself in a path: it is not dots, and no tab or line end is in it. -/
def IsPlain (s : String) : Prop :=
  s ∉ [".", ".."] ∧ ∀ c ∈ s.toList, c ∉ ['\t', '\n', '\r']

-- the characters of the text are looked through, and not all characters there are
instance : DecidablePred IsPlain := fun s =>
  @instDecidableAnd (s ∉ [".", ".."]) (∀ c ∈ s.toList, c ∉ ['\t', '\n', '\r']) inferInstance
    (List.decidableBAll _ _)

variable {k : SchemeKind} {s t : String}

theorem withoutBreaks_eq_self_iff {cs : List Char} :
    withoutBreaks cs = cs ↔ ∀ c ∈ cs, c ∉ ['\t', '\n', '\r'] := by
  rw [withoutBreaks, List.filter_eq_self]
  refine forall₂_congr fun c _ => ?_
  simp [and_assoc]

/-- **A written segment is read back** as the text without its tabs and line ends. -/
theorem percentDecode_writtenSegment (k : SchemeKind) (s : String) :
    percentDecode (writtenSegment k s).toList =
      (withoutBreaks s.toList).flatMap String.utf8EncodeChar := by
  rw [writtenSegment, String.toList_ofList]
  split <;> exact percentDecode_percentEncode (by decide) _

theorem percentDecode_writtenSegment_of_isPlain (k : SchemeKind) (h : IsPlain s) :
    percentDecode (writtenSegment k s).toList = Text.encode s := by
  rw [percentDecode_writtenSegment, withoutBreaks_eq_self_iff.mpr h.2]
  rfl

/-- **Different plain texts are written differently.** -/
theorem writtenSegment_injective (hs : IsPlain s) (ht : IsPlain t)
    (h : writtenSegment k s = writtenSegment k t) : s = t := by
  refine Text.encode_injective ?_
  rw [← percentDecode_writtenSegment_of_isPlain k hs, h,
    percentDecode_writtenSegment_of_isPlain k ht]

theorem writtenSegment_ne_empty (hs : IsPlain s) (hne : s ≠ "") : writtenSegment k s ≠ "" := by
  intro h
  refine hne (Text.encode_injective ?_)
  rw [← percentDecode_writtenSegment_of_isPlain k hs, h]
  rfl

/-- A plain text is not taken for dots. -/
theorem isHere_writtenSegment (hs : IsPlain s) : isHere (writtenSegment k s) = false := by
  refine Bool.eq_false_iff.mpr fun h => hs.1 ?_
  have hdot := percentDecode_of_isHere h
  rw [percentDecode_writtenSegment_of_isPlain k hs] at hdot
  rw [Text.encode_injective hdot]
  decide

theorem isAbove_writtenSegment (hs : IsPlain s) : isAbove (writtenSegment k s) = false := by
  refine Bool.eq_false_iff.mpr fun h => hs.1 ?_
  have hdots := percentDecode_of_isAbove h
  rw [percentDecode_writtenSegment_of_isPlain k hs] at hdots
  rw [Text.encode_injective hdots]
  decide

/-- No character that ends a segment stands in one. -/
theorem not_mem_writtenSegment {c : Char} (hc : c ∈ ['/', '?', '#']) (k : SchemeKind)
    (s : String) : c ∉ (writtenSegment k s).toList := by
  have hset : inSegment c = true ∧ c ≠ '%' ∧ c.isAlphanum = false := by
    simp only [List.mem_cons, List.not_mem_nil, or_false] at hc
    rcases hc with rfl | rfl | rfl <;> decide
  rw [writtenSegment, String.toList_ofList]
  split
  · exact not_mem_percentEncode (by simp [inSpecialSegment, hset.1]) hset.2.1 hset.2.2 _
  · exact not_mem_percentEncode hset.1 hset.2.1 hset.2.2 _

/-! ## Going down a path -/

/-- A path that has more below its root than an empty segment. -/
def IsInside (path : List String) : Prop := path ≠ [] ∧ path ≠ [""]

theorem isInside_append {path : List String} (h : IsInside path) (more : List String) :
    IsInside (path ++ more) := by
  obtain ⟨hnil, hroot⟩ := h
  cases path with
  | nil => exact absurd rfl hnil
  | cons a rest =>
    refine ⟨List.cons_ne_nil _ _, fun heq => ?_⟩
    rw [List.cons_append] at heq
    obtain ⟨rfl, hrest⟩ := List.cons_eq_cons.mp heq
    rw [(List.append_eq_nil_iff.mp hrest).1] at hroot
    exact hroot rfl

variable {path : List String}

/-- **A plain text becomes one segment of its own.** -/
theorem descend_of_isPlain (hk : k ≠ .file) (hs : IsPlain s) (path : List String) :
    descend k path s = (if path = [""] then [] else path) ++ [writtenSegment k s] := by
  have hdots : ¬ (s = "." ∨ s = "..") := fun h => hs.1 (by simpa using h)
  rw [descend, if_neg hdots]
  simp only [addSegment, isAbove_writtenSegment hs, isHere_writtenSegment hs, hk, false_and,
    if_false, Bool.false_eq_true]

/-- Plain texts become one segment each. -/
theorem foldl_descend_of_isPlain (hk : k ≠ .file) (hpath : IsInside path) {texts : List String}
    (htexts : ∀ s ∈ texts, IsPlain s) :
    texts.foldl (descend k) path = path ++ texts.map (writtenSegment k) := by
  induction texts generalizing path with
  | nil => simp
  | cons s rest ih =>
    rw [List.foldl_cons, descend_of_isPlain hk (htexts s (List.mem_cons_self ..)),
      if_neg hpath.2, ih (isInside_append hpath _) fun t ht => htexts t (List.mem_cons_of_mem _ ht),
      List.append_assoc]
    rfl

theorem length_foldl_descend_le (hk : k ≠ .file) {texts : List String}
    (htexts : ∀ s ∈ texts, IsPlain s) (path : List String) :
    (texts.foldl (descend k) path).length ≤ path.length + texts.length := by
  induction texts generalizing path with
  | nil => simp
  | cons s rest ih =>
    have hstep : (descend k path s).length ≤ path.length + 1 := by
      rw [descend_of_isPlain hk (htexts s (List.mem_cons_self ..)), List.length_append]
      split <;> simp
    have hrest := ih (fun t ht => htexts t (List.mem_cons_of_mem _ ht)) (descend k path s)
    rw [List.foldl_cons, List.length_cons]
    omega

/-- What a path makes of a written segment at its end: the path above or an empty segment of what is
written like dots, and a segment of everything else. -/
theorem addSegment_cases (hk : k ≠ .file) (path : List String) (s : String) :
    isAbove s = true ∧ addSegment k path true s = path.dropLast ++ [""] ∨
      addSegment k path true s = path ++ [""] ∨ addSegment k path true s = path ++ [s] := by
  have hshorten : shorten k path = path.dropLast := by
    unfold shorten
    split
    · rw [if_neg fun h => hk h.1]
      rfl
    · rfl
  simp only [addSegment, if_true, hshorten, hk, false_and, if_false]
  split
  · exact .inl ⟨‹_›, rfl⟩
  split
  · exact .inr (.inl rfl)
  · exact .inr (.inr rfl)

/-- What a path makes of a text: nothing of dots, and else what it makes of the written segment. -/
theorem descend_cases (hk : k ≠ .file) (hpath : path ≠ [""]) (s : String) :
    descend k path s = path ∨ descend k path s = path.dropLast ++ [""] ∨
      descend k path s = path ++ [""] ∨
      s ∉ [".", ".."] ∧ descend k path s = path ++ [writtenSegment k s] := by
  unfold descend
  split
  · exact .inl rfl
  · rename_i hdots
    dsimp only
    obtain ⟨-, habove⟩ | hhere | hdown := addSegment_cases hk path (writtenSegment k s)
    · exact .inr (.inl habove)
    · exact .inr (.inr (.inl hhere))
    · exact .inr (.inr (.inr ⟨by simpa using hdots, hdown⟩))

/-- **A segment that is not empty is the written form of its text**, if what follows the text goes
down one segment each. -/
theorem foldl_descend_eq_append (hk : k ≠ .file) (hpath : IsInside path) {seg : String}
    {after longer after' : List String} (hafter : ∀ t ∈ after, IsPlain t)
    (hlonger : path.length ≤ longer.length) (hlength : after'.length = after.length)
    (hseg : seg ≠ "") (h : (s :: after).foldl (descend k) path = longer ++ seg :: after') :
    longer = path ∧ seg = writtenSegment k s ∧ s ∉ [".", ".."] := by
  rw [List.foldl_cons] at h
  have hlengths := congrArg List.length h
  rw [List.length_append, List.length_cons] at hlengths
  rcases descend_cases hk hpath.2 s with hstay | habove | hempty | ⟨hdots, hdown⟩
  · -- a path that stays where it is comes out too short
    rw [hstay, foldl_descend_of_isPlain hk hpath hafter, List.length_append,
      List.length_map] at hlengths
    omega
  · have hle := length_foldl_descend_le hk hafter (descend k path s)
    have hpos : 0 < path.length := List.length_pos_iff.mpr hpath.1
    rw [habove, List.length_append, List.length_dropLast, List.length_singleton] at hle
    rw [habove] at hlengths
    omega
  · rw [hempty, foldl_descend_of_isPlain hk (isInside_append hpath _) hafter,
      List.append_assoc] at h
    have hsame := congrArg List.length h
    simp only [List.length_append, List.length_cons, List.length_map, List.length_nil] at hsame
    obtain ⟨-, hrest⟩ := List.append_inj h (by omega)
    exact absurd (List.cons_eq_cons.mp hrest).1.symm hseg
  · rw [hdown, foldl_descend_of_isPlain hk (isInside_append hpath _) hafter,
      List.append_assoc] at h
    have hsame := congrArg List.length h
    simp only [List.length_append, List.length_cons, List.length_map, List.length_nil] at hsame
    obtain ⟨hlong, hrest⟩ := List.append_inj h (by omega)
    exact ⟨hlong.symm, (List.cons_eq_cons.mp hrest).1.symm, hdots⟩

end Url
end OfflineChat
